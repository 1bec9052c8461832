import QuorumRing.Proofs.Cluster.Acts

/-!
# Whether a cluster is rebalancing

A migration is registered before its task is queued, and its registration ends when the task has ended
or was dropped. Meanwhile a later migration of the same kind and id may have taken its place. So every
registration in force is that of a queued task, in whatever order tasks do their stints
(`Cluster.Accounted`), though not the other way round: if a task ended ahead of the one whose place it
has taken, nothing would be left in force for the older one.

As long as that does not happen (`Cluster.EndsInOrder`), every queued migration has one of the same
kind and id in force that is not older than itself (`Cluster.Represented`), and the registry is empty if
and only if no migration is queued. It does not happen if a migration does a stint only when no older
one is queued, and it never happens when all tasks are run to their end.
-/

namespace QuorumRing

/-- Whether the task moves data after a change of membership. -/
def Task.isMigration : Task → Bool
  | .write .. => false
  | .join .. | .pull .. | .leave .. => true

namespace Cluster

/-- The registrations of the queued tasks. -/
def registrations (c : Cluster) : List Registration := c.queue.filterMap Task.registration?

/-- The registrations in force are different ones of queued tasks. -/
structure Accounted (c : Cluster) : Prop where
  /-- Those in force are all different. -/
  nodup : c.registry.inFlight.Nodup
  /-- Each is that of a queued task. -/
  queued : ∀ registration ∈ c.registry.inFlight, registration ∈ c.registrations
  /-- No two tasks have the same registration. -/
  different : c.registrations.Nodup
  /-- The registrations of the tasks were made before. -/
  made : ∀ registration ∈ c.registrations, registration.ticket < c.registry.tickets

/-- Every queued migration has one of the same kind and id in force that is not older. -/
def Represented (c : Cluster) : Prop :=
  ∀ registration ∈ c.registrations, ∃ last ∈ c.registry.inFlight,
    last.kind = registration.kind ∧ last.id = registration.id ∧ registration.ticket ≤ last.ticket

/-- No migration has ended while an older one of the same kind and id is queued still. -/
def EndsInOrder (c c' : Cluster) : Prop :=
  ∀ ended ∈ c.registrations, ended ∉ c'.registrations → ∀ registration ∈ c'.registrations,
    registration.kind = ended.kind → registration.id = ended.id → ended.ticket < registration.ticket

instance (c c' : Cluster) : Decidable (c.EndsInOrder c') :=
  inferInstanceAs (Decidable (∀ ended ∈ c.registrations, ended ∉ c'.registrations →
    ∀ registration ∈ c'.registrations, registration.kind = ended.kind → registration.id = ended.id →
      ended.ticket < registration.ticket))

/-- The migrations that were under way go on or end, and no others are queued. -/
structure Wanes (c c' : Cluster) : Prop where
  /-- The registrations are accounted for. -/
  accounted : c'.Accounted
  /-- No registrations are made. -/
  registrations : ∀ registration ∈ c'.registrations, registration ∈ c.registrations
  /-- What is in force stays in force as long as its task is queued. -/
  inFlight : ∀ registration ∈ c.registry.inFlight, registration ∈ c'.registrations →
    registration ∈ c'.registry.inFlight

/-- The migrations that were under way go on, end or give way to newer ones, which are in force. -/
structure Proceeds (c c' : Cluster) : Prop where
  /-- The registrations are accounted for. -/
  accounted : c'.Accounted
  /-- A migration that is queued was queued before or is in force. -/
  fresh : ∀ registration ∈ c'.registrations, registration ∈ c.registrations ∨
    registration ∈ c'.registry.inFlight
  /-- What was in force is so still, as long as its task is queued, or has given way. -/
  inFlight : ∀ registration ∈ c.registry.inFlight, registration ∈ c'.registrations →
    ∃ last ∈ c'.registry.inFlight, last.kind = registration.kind ∧ last.id = registration.id ∧
      registration.ticket ≤ last.ticket

variable {c c' c'' : Cluster} {key value : String} {task : Task} {index : Nat}

theorem registrations_ne_nil_iff : c.registrations ≠ [] ↔ ∃ task ∈ c.queue, task.isMigration = true := by
  have hmigration : ∀ task : Task, task.isMigration = true ↔ task.registration? ≠ none := by
    intro task
    cases task <;> simp [Task.isMigration, Task.registration?]
  rw [registrations, Ne, List.filterMap_eq_nil_iff]
  simp only [hmigration, not_forall, exists_prop]

theorem Accounted.registrations_ne_nil (h : c.Accounted) (hbusy : c.isRebalancing = true) :
    c.registrations ≠ [] := by
  rw [isRebalancing, Registry.isRebalancing, Bool.not_eq_true',
    List.isEmpty_eq_false_iff_exists_mem] at hbusy
  obtain ⟨registration, hmem⟩ := hbusy
  exact List.ne_nil_of_mem (h.queued registration hmem)

theorem Represented.isRebalancing (h : c.Represented) (hne : c.registrations ≠ []) : c.isRebalancing = true := by
  obtain ⟨registration, hmem⟩ := List.exists_mem_of_ne_nil _ hne
  obtain ⟨last, hlast, -⟩ := h registration hmem
  rw [Cluster.isRebalancing, Registry.isRebalancing, Bool.not_eq_true',
    List.isEmpty_eq_false_iff_exists_mem]
  exact ⟨last, hlast⟩

/-- As long as migrations end in order, each stays covered. -/
theorem Represented.proceeds (h : c.Represented) (haccounted : c.Accounted) (hproceeds : c.Proceeds c')
    (horder : c.EndsInOrder c') : c'.Represented := by
  intro registration hmem
  rcases hproceeds.fresh registration hmem with hold | hforce
  · obtain ⟨last, hlast, hkind, hid, hle⟩ := h registration hold
    by_cases hgoes : last ∈ c'.registrations
    · obtain ⟨newer, hnewer, hkind', hid', hle'⟩ := hproceeds.inFlight last hlast hgoes
      exact ⟨newer, hnewer, hkind'.trans hkind, hid'.trans hid, hle.trans hle'⟩
    · have hlater := horder last (haccounted.queued last hlast) hgoes registration hmem hkind.symm
        hid.symm
      omega
  · exact ⟨registration, hforce, rfl, rfl, Nat.le_refl _⟩

namespace Wanes

theorem of_perm (h : c.Accounted) (hregistry : c'.registry = c.registry)
    (hperm : c'.registrations.Perm c.registrations) : c.Wanes c' where
  accounted := by
    refine ⟨hregistry ▸ h.nodup, fun registration hmem => ?_, hperm.nodup_iff.2 h.different,
      fun registration hmem => ?_⟩
    · rw [hregistry] at hmem
      exact hperm.mem_iff.2 (h.queued registration hmem)
    · rw [hregistry]
      exact h.made registration (hperm.mem_iff.1 hmem)
  registrations registration := hperm.mem_iff.1
  inFlight registration hmem _ := by rwa [hregistry]

theorem of_eq (h : c.Accounted) (hregistry : c'.registry = c.registry)
    (hregistrations : c'.registrations = c.registrations) : c.Wanes c' :=
  .of_perm h hregistry (by rw [hregistrations])

theorem refl (h : c.Accounted) : c.Wanes c := .of_eq h rfl rfl

/-- A task that ends takes its registration along, if it is in force still. -/
theorem of_finish (h : c.Accounted) {ended : Registration}
    (hregistry : c'.registry = c.registry.finish ended)
    (hperm : (ended :: c'.registrations).Perm c.registrations) : c.Wanes c' := by
  have hinFlight : c'.registry.inFlight = c.registry.inFlight.erase ended := by
    rw [hregistry]
    rfl
  obtain ⟨hgone, hdifferent⟩ := List.nodup_cons.1 (hperm.nodup_iff.2 h.different)
  have hregistrations : ∀ registration ∈ c'.registrations, registration ∈ c.registrations := fun registration hmem =>
    hperm.mem_iff.1 (List.mem_cons_of_mem _ hmem)
  refine ⟨⟨?_, fun registration hmem => ?_, hdifferent, fun registration hmem => ?_⟩, hregistrations,
    fun registration hmem hgoes => ?_⟩
  · rw [hinFlight]
    exact h.nodup.erase ended
  · rw [hinFlight, h.nodup.mem_erase_iff] at hmem
    exact (List.mem_cons.1 (hperm.mem_iff.2 (h.queued registration hmem.2))).resolve_left hmem.1
  · rw [hregistry]
    exact h.made registration (hregistrations registration hmem)
  · rw [hinFlight, h.nodup.mem_erase_iff]
    refine ⟨?_, hmem⟩
    rintro rfl
    exact hgone hgoes

theorem trans (h : c.Wanes c') (h' : c'.Wanes c'') : c.Wanes c'' where
  accounted := h'.accounted
  registrations registration hmem := h.registrations _ (h'.registrations registration hmem)
  inFlight registration hmem hgoes :=
    h'.inFlight _ (h.inFlight registration hmem (h'.registrations _ hgoes)) hgoes

theorem proceeds (h : c.Wanes c') : c.Proceeds c' where
  accounted := h.accounted
  fresh registration hmem := Or.inl (h.registrations registration hmem)
  inFlight registration hmem hgoes :=
    ⟨registration, h.inFlight registration hmem hgoes, rfl, rfl, Nat.le_refl _⟩

end Wanes

/-! ## Tasks that go on, end or are dropped -/

/-- The registrations of the queued tasks, that of one of them first. -/
theorem registrations_perm (queued : c.queue[index]? = some task) :
    (task.registration?.toList ++ (c.queue.eraseIdx index).filterMap Task.registration?).Perm
      c.registrations := by
  obtain ⟨hlt, rfl⟩ := List.getElem?_eq_some_iff.1 queued
  have hperm := (List.getElem_cons_eraseIdx_perm hlt).filterMap Task.registration?
  rw [List.filterMap_cons] at hperm
  cases hregistration : c.queue[index].registration? with
  | none =>
    rw [hregistration] at hperm
    exact hperm
  | some registration =>
    rw [hregistration] at hperm
    exact hperm

/-- A task that has left the queue ends. -/
theorem Accounted.conclude (h : c.Accounted) (queued : c.queue[index]? = some task)
    (hregistry : c'.registry = c.registry) (hqueue : c'.queue = c.queue.eraseIdx index) :
    c.Wanes (c'.conclude task) := by
  have hperm := registrations_perm queued
  rw [← hqueue] at hperm
  unfold Cluster.conclude
  cases hregistration : task.registration? with
  | none =>
    rw [hregistration] at hperm
    exact .of_perm h hregistry hperm
  | some ended =>
    rw [hregistration] at hperm
    exact .of_finish h (congrArg (·.finish ended) hregistry) hperm

/-- In a stint a task goes on or ends. -/
theorem Accounted.runAt (h : c.Accounted) (index : Nat) : c.Wanes (c.runAt index) := by
  unfold Cluster.runAt
  cases queued : c.queue[index]? with
  | none => exact .refl h
  | some task =>
    dsimp only
    obtain ⟨m, hperform⟩ := perform_snd { c with queue := c.queue.eraseIdx index } task
    cases hrest : task.rest c.fleet with
    | none =>
      rw [run_of_rest_eq_none (c := { c with queue := c.queue.eraseIdx index }) hrest, hperform]
      exact h.conclude queued rfl rfl
    | some left =>
      rw [run_of_rest_eq_some (c := { c with queue := c.queue.eraseIdx index }) hrest, hperform]
      refine .of_perm h rfl (List.Perm.trans ?_ (registrations_perm queued))
      rw [← Task.registration?_rest hrest, registrations, List.filterMap_append]
      cases hregistration : left.registration? with
      | none => simp [hregistration]
      | some registration =>
        simp only [hregistration, List.filterMap_cons, List.filterMap_nil, Option.toList_some]
        exact List.perm_append_comm

/-- Another order of the entries is of no consequence for the registrations. -/
theorem registrations_reorderAt (c : Cluster) (index : Nat) (entries : List (String × String)) :
    (c.reorderAt index entries).registrations = c.registrations := by
  have hqueue : ∀ (queue : List Task) (index : Nat),
      (queue.modify index (·.reorder entries)).filterMap Task.registration? =
        queue.filterMap Task.registration? := by
    intro queue
    induction queue with
    | nil => exact fun index => by rw [List.modify_nil]
    | cons task queue ih =>
      intro index
      cases index with
      | zero =>
        rw [List.modify_zero_cons, List.filterMap_cons, List.filterMap_cons,
          Task.registration?_reorder]
      | succ index => rw [List.modify_succ_cons, List.filterMap_cons, List.filterMap_cons, ih]
  exact hqueue c.queue index

theorem Accounted.round (h : c.Accounted) : c.Wanes c.round :=
  round_induction (.refl h) fun _ hwanes => hwanes.trans (hwanes.accounted.runAt 0)

theorem Accounted.drain (h : c.Accounted) : c.Wanes c.drain :=
  drain_induction (.refl h) fun _ hwanes => hwanes.trans (hwanes.accounted.runAt 0)

/-- Tasks that are dropped end as well. -/
theorem Accounted.drop {tasks : List Task} (h : c.Accounted) (hqueue : c.queue = tasks) :
    c.Wanes (tasks.foldl Cluster.conclude { c with queue := [] }) := by
  induction tasks generalizing c with
  | nil =>
    rw [List.foldl_nil, ← hqueue]
    exact .refl h
  | cons task tasks ih =>
    have hfirst : c.Wanes ({ c with queue := tasks }.conclude task) := by
      refine @conclude c _ task 0 h ?_ rfl ?_
      · rw [hqueue]
        rfl
      · rw [hqueue]
        rfl
    have hsame : ({ c with queue := [] }.conclude task) =
        { { c with queue := tasks }.conclude task with queue := [] } := by
      unfold Cluster.conclude
      cases task.registration? with
      | none => rfl
      | some registration => rfl
    rw [List.foldl_cons, hsame]
    refine hfirst.trans (ih hfirst.accounted ?_)
    unfold Cluster.conclude
    cases task.registration? with
    | none => rfl
    | some registration => rfl

theorem Accounted.shutdown (h : c.Accounted) (graceMillis : Nat) :
    c.Wanes (c.shutdown graceMillis).2 := by
  have hclosed : c.Wanes { c with closed := true } := .of_eq h rfl rfl
  unfold Cluster.shutdown
  dsimp only
  split
  · exact hclosed.trans (hclosed.accounted.drop rfl)
  · exact hclosed.trans hclosed.accounted.drain

/-! ## Tasks that are queued or refused -/

namespace Accounted

/-- A task without a registration is queued, or dropped without a trace. -/
theorem spawn (h : c.Accounted) (hnone : task.registration? = none) : c.Wanes (c.spawn task) := by
  unfold Cluster.spawn
  split
  · rw [Cluster.conclude, hnone]
    exact .refl h
  · refine .of_eq h rfl ?_
    rw [registrations, List.filterMap_append, List.filterMap_cons_none hnone, List.filterMap_nil,
      List.append_nil]
    rfl

/-- A migration takes the place of those of its kind and id. If it is refused it leaves no registration
behind: after a shutdown there is none that it could have replaced. -/
theorem launch (h : c.Accounted) (hquiet : c.closed = true → c.queue = []) (kind : MigrationKind)
    (id : String) {task : Registration → Task}
    (hsome : ∀ registration, (task registration).registration? = some registration) :
    c.Proceeds (c.launch kind id task) := by
  unfold Cluster.launch Cluster.spawn
  dsimp only
  split
  next hclosed =>
    have hnone : c.registry.inFlight = [] := by
      rw [List.eq_nil_iff_forall_not_mem]
      intro registration hmem
      have hqueued := h.queued registration hmem
      rw [registrations, hquiet hclosed] at hqueued
      exact List.not_mem_nil hqueued
    have hleft : ((c.registry.enter kind id).2.finish (c.registry.enter kind id).1).inFlight = [] := by
      show (c.registry.inFlight.filter _ ++ [(c.registry.enter kind id).1]).erase _ = []
      rw [hnone, List.filter_nil, List.nil_append, List.erase_cons_head]
    rw [Cluster.conclude, hsome]
    refine Wanes.proceeds ⟨⟨?_, ?_, h.different, ?_⟩, fun _ hmem => hmem, ?_⟩
    · exact hleft ▸ List.nodup_nil
    · intro registration hmem
      rw [hleft] at hmem
      exact absurd hmem List.not_mem_nil
    · exact fun registration hmem => Nat.lt_succ_of_lt (h.made registration hmem)
    · rw [hnone]
      exact fun _ hmem => absurd hmem List.not_mem_nil
  next hopen =>
    have hregistrations : (c.queue ++ [task (c.registry.enter kind id).1]).filterMap Task.registration? =
        c.registrations ++ [(c.registry.enter kind id).1] := by
      rw [List.filterMap_append, List.filterMap_cons_some (hsome _), List.filterMap_nil]
      rfl
    have hnew : (c.registry.enter kind id).1 ∉ c.registrations := fun hmem =>
      Nat.lt_irrefl _ (h.made _ hmem)
    have hold : ∀ registration ∈ (c.registry.enter kind id).2.inFlight,
        registration ∈ c.registry.inFlight ∨ registration = (c.registry.enter kind id).1 := by
      intro registration hmem
      rcases List.mem_append.1 hmem with hother | hlast
      · exact Or.inl (List.mem_filter.1 hother).1
      · exact Or.inr (List.mem_singleton.1 hlast)
    refine ⟨⟨?_, ?_, ?_, ?_⟩, ?_, ?_⟩
    · refine List.nodup_append.2 ⟨h.nodup.filter _, List.nodup_singleton _, ?_⟩
      intro a ha b hb heq
      rw [heq, List.mem_singleton.1 hb] at ha
      exact hnew (h.queued _ (List.mem_filter.1 ha).1)
    · intro registration hmem
      rw [registrations, hregistrations, List.mem_append, List.mem_singleton]
      exact (hold registration hmem).imp_left (h.queued registration)
    · rw [registrations, hregistrations]
      refine List.nodup_append.2 ⟨h.different, List.nodup_singleton _, fun a ha b hb heq => ?_⟩
      rw [heq, List.mem_singleton.1 hb] at ha
      exact hnew ha
    · intro registration hmem
      rw [registrations, hregistrations] at hmem
      rcases List.mem_append.1 hmem with hmember | hlast
      · exact Nat.lt_succ_of_lt (h.made registration hmember)
      · rw [List.mem_singleton.1 hlast]
        exact Nat.lt_succ_self c.registry.tickets
    · intro registration hmem
      rw [registrations, hregistrations] at hmem
      refine (List.mem_append.1 hmem).imp_right fun hlast => ?_
      exact List.mem_append_right _ hlast
    · intro registration hmem _
      by_cases hsame : (registration.kind = kind && registration.id = id : Bool) = true
      · simp only [Bool.and_eq_true, decide_eq_true_eq] at hsame
        refine ⟨_, List.mem_append_right _ (List.mem_singleton_self _), hsame.1.symm, hsame.2.symm,
          Nat.le_of_lt (h.made registration (h.queued registration hmem))⟩
      · refine ⟨registration, List.mem_append_left _ (List.mem_filter.2 ⟨hmem, ?_⟩), rfl, rfl,
          Nat.le_refl _⟩
        rwa [Bool.not_eq_true', ← Bool.not_eq_true]

theorem fanOut (h : c.Accounted) (key value : String) (targets : List UnitRef) :
    c.Wanes (c.fanOut key value targets).2 := by
  unfold Cluster.fanOut
  split
  · exact .refl h
  next hopen =>
    split
    · have hwrites : (targets.map fun target => Task.write target key value).filterMap
          Task.registration? = [] := by
        rw [List.filterMap_map]
        exact List.filterMap_eq_nil_iff.2 fun _ _ => rfl
      refine .of_eq h rfl ?_
      rw [registrations, List.filterMap_append, hwrites, List.append_nil]
      rfl
    · obtain ⟨m, hwritten⟩ := writeAll_snd c.round key value targets
      rw [hwritten]
      exact h.round.trans (.of_eq h.round.accounted rfl rfl)

theorem put (h : c.Accounted) (key value : String) : c.Wanes (c.put key value).2 := by
  by_cases hnil : c.replicas key = []
  · rw [Cluster.put, store, hnil, if_pos (by rfl)]
    exact .of_eq h rfl rfl
  · obtain ⟨m, hstore⟩ := store_snd c key value hnil
    have hsent := h.fanOut key value (c.replicas key)
    rw [Cluster.put, hstore]
    exact hsent.trans (.of_eq hsent.accounted rfl rfl)

theorem submit (h : c.Accounted) (key value : String) : c.Wanes (c.submit key value) :=
  submit_induction (.refl h) fun _ _ hwanes => hwanes.trans (hwanes.accounted.spawn rfl)

theorem addNode (h : c.Accounted) (hquiet : c.closed = true → c.queue = []) (id host : String)
    (port : UInt16) : c.Proceeds (c.addNode id host port).2 := by
  unfold Cluster.addNode
  split
  · exact (Wanes.refl h).proceeds
  next unit fleet _ =>
    have hadmitted : c.Wanes ({ c with fleet }.record (·.recordNodeAdded)) := .of_eq h rfl rfl
    have hregistered : ∀ registration, (Task.join unit registration).registration? =
        some registration := fun _ => rfl
    have hlaunched := hadmitted.accounted.launch hquiet .join id hregistered
    exact ⟨hlaunched.accounted, hlaunched.fresh, hlaunched.inFlight⟩

theorem removeNode (h : c.Accounted) (hquiet : c.closed = true → c.queue = []) (id : String) :
    c.Proceeds (c.removeNode id).2 := by
  unfold Cluster.removeNode
  split
  · exact (Wanes.refl h).proceeds
  next unit _ =>
    dsimp only
    split
    · have hswitched : c.Wanes { c with fleet := c.fleet.setActive unit false } := .of_eq h rfl rfl
      exact hswitched.proceeds
    next fleet _ =>
      have hremoved : c.Wanes ({ c with fleet }.record (·.recordNodeRemoved)) := .of_eq h rfl rfl
      split
      · exact hremoved.proceeds
      · have hregistered : ∀ registration,
            (Task.leave (c.fleet.get unit).contents.toList registration).registration? =
              some registration := fun _ => rfl
        have hlaunched := hremoved.accounted.launch hquiet .leave id hregistered
        exact ⟨hlaunched.accounted, hlaunched.fresh, hlaunched.inFlight⟩

end Accounted

end Cluster

/-! ## Sessions -/

namespace Session

variable {s : Session} {virtualNodes replicationFactor writeTimeout : Nat} {units : List UnitSpec}

/-- What becomes of the queue in an act: tasks are queued, or all have ended, or each of them does a
stint, or one does, or is put in another order. -/
theorem queue_act (s : Session) (a : Act) :
    (∃ tail, (s.act a).cluster.queue = s.cluster.queue ++ tail ∧
        (s.cluster.closed = true → tail = [])) ∨
      (s.act a).cluster.queue = [] ∨
      (s.cluster.closed = false ∧ (s.act a).cluster.queue = s.cluster.round.queue ∧
        ∃ key value, a = .event (.put key value)) ∨
      ∃ index, a = .event (.run index) ∨ ∃ entries, a = .event (.reorder index entries) := by
  have hsame : ∀ {c : Cluster}, c.queue = s.cluster.queue →
      ∃ tail, c.queue = s.cluster.queue ++ tail ∧ (s.cluster.closed = true → tail = []) :=
    fun hqueue => ⟨[], hqueue.trans (List.append_nil _).symm, fun _ => rfl⟩
  cases a with
  | request unit request => exact Or.inl (hsame rfl)
  | event event =>
    rw [act]
    cases event with
    | put key value =>
      by_cases hclosed : s.cluster.closed = true
      · obtain ⟨m, hput⟩ := Cluster.put_snd_of_closed hclosed key value
        exact Or.inl (hsame (by rw [step, hput]))
      · rcases Cluster.put_snd s.cluster key value with ⟨m, hput⟩ | ⟨m, hput⟩ | ⟨m, g, hput⟩
        · exact Or.inl (hsame (by rw [step, hput]))
        · exact Or.inl ⟨_, by rw [step, hput], fun h => absurd h hclosed⟩
        · obtain ⟨m', g', hround⟩ := Cluster.round_eq s.cluster
          exact Or.inr (Or.inr (Or.inl ⟨Bool.not_eq_true _ ▸ hclosed, by rw [step, hput, hround],
            key, value, rfl⟩))
    | submit key value =>
      obtain ⟨g, hsubmit⟩ := Cluster.submit_snd s.cluster key value
      exact Or.inl ⟨_, by rw [step, hsubmit], fun hclosed => if_pos hclosed⟩
    | get key =>
      obtain ⟨f, m, hget, -⟩ := Cluster.get_snd s.cluster key
      exact Or.inl (hsame (by rw [step, hget]))
    | delete key =>
      obtain ⟨f, m, hdelete⟩ := Cluster.delete_eq s.cluster key
      exact Or.inl (hsame (by rw [step, hdelete]))
    | addNode id host port =>
      rw [step]
      cases hadded : s.cluster.fleet.add? { id, host, port } with
      | none => exact Or.inl (hsame (by rw [Cluster.addNode_of_taken hadded]))
      | some added =>
        obtain ⟨-, registration, m, g, heq⟩ := Cluster.addNode_of_free hadded
        exact Or.inl ⟨_, by rw [heq], fun hclosed => if_pos hclosed⟩
    | removeNode id =>
      rw [step, Cluster.removeNode]
      split
      · exact Or.inl (hsame rfl)
      next unit _ =>
        dsimp only
        split
        · exact Or.inl (hsame rfl)
        next fleet _ =>
          split
          · exact Or.inl (hsame rfl)
          · obtain ⟨registration, g, hlaunch⟩ := Cluster.launch_eq
              ({ s.cluster with fleet }.record (·.recordNodeRemoved)) .leave id
              (.leave (s.cluster.fleet.get unit).contents.toList)
            exact Or.inl ⟨_, by rw [hlaunch]; rfl, fun hclosed => if_pos hclosed⟩
    | repair key => exact Or.inl (hsame rfl)
    | verify => exact Or.inl (hsame rfl)
    | check down => exact Or.inl (hsame rfl)
    | switch id active =>
      rw [step, Cluster.switch]
      split
      · exact Or.inl (hsame rfl)
      · exact Or.inl (hsame rfl)
    | run index => exact Or.inr (Or.inr (Or.inr ⟨index, Or.inl rfl⟩))
    | reorder index entries => exact Or.inr (Or.inr (Or.inr ⟨index, Or.inr ⟨entries, rfl⟩⟩))
    | drain =>
      obtain ⟨f, m, g, hdrain, -⟩ := Cluster.drain_eq s.cluster
      exact Or.inr (Or.inl (by rw [step, hdrain]))
    | shutdown graceMillis =>
      obtain ⟨f, m, g, hshutdown, -⟩ := Cluster.shutdown_snd s.cluster graceMillis
      exact Or.inr (Or.inl (by rw [step, hshutdown]))

/-- After a shutdown nothing is queued. -/
theorem quiet_act (h : s.cluster.closed = true → s.cluster.queue = []) (a : Act)
    (hclosed : (s.act a).cluster.closed = true) : (s.act a).cluster.queue = [] := by
  -- it was shut down before, unless it has just been
  have hbefore : s.cluster.closed = true ∨ ∃ millis, a = .event (.shutdown millis) := by
    cases a with
    | request => exact Or.inl hclosed
    | event event =>
      cases event with
      | shutdown millis => exact Or.inr ⟨millis, rfl⟩
      | _ =>
        rw [act, closed_step_of_goesOn rfl] at hclosed
        exact Or.inl hclosed
  rcases hbefore with hbefore | ⟨millis, rfl⟩
  · rcases queue_act s a with ⟨tail, hqueue, htail⟩ | hnone | ⟨hopen, -⟩ | ⟨index, rfl | ⟨entries, rfl⟩⟩
    · rw [hqueue, h hbefore, htail hbefore, List.append_nil]
    · exact hnone
    · exact absurd (hopen.symm.trans hbefore) Bool.false_ne_true
    · rw [act, step, Cluster.runAt, h hbefore]
      exact h hbefore
    · rw [act, step, Cluster.reorderAt, h hbefore, List.modify_nil]
  · obtain ⟨f, m, g, hshutdown, -⟩ := Cluster.shutdown_snd s.cluster millis
    rw [act, step, hshutdown]

/-- Whatever happens, migrations that were under way go on, end or give way to newer ones. -/
theorem proceeds_act (h : s.cluster.Accounted)
    (hquiet : s.cluster.closed = true → s.cluster.queue = []) (a : Act) :
    s.cluster.Proceeds (s.act a).cluster := by
  cases a with
  | request unit request => exact Cluster.Wanes.proceeds (.of_eq h rfl rfl)
  | event event =>
    cases event with
    | put key value => exact (h.put key value).proceeds
    | submit key value => exact (h.submit key value).proceeds
    | get key =>
      obtain ⟨f, m, hget, -⟩ := Cluster.get_snd s.cluster key
      rw [act, step, hget]
      exact Cluster.Wanes.proceeds (.of_eq h rfl rfl)
    | delete key =>
      obtain ⟨f, m, hdelete⟩ := Cluster.delete_eq s.cluster key
      rw [act, step, hdelete]
      exact Cluster.Wanes.proceeds (.of_eq h rfl rfl)
    | addNode id host port => exact h.addNode hquiet id host port
    | removeNode id => exact h.removeNode hquiet id
    | repair key => exact Cluster.Wanes.proceeds (.of_eq h rfl rfl)
    | verify => exact Cluster.Wanes.proceeds (.of_eq h rfl rfl)
    | check down => exact Cluster.Wanes.proceeds (.of_eq h rfl rfl)
    | switch id active =>
      rw [act, step, Cluster.switch]
      split
      · exact Cluster.Wanes.proceeds (.of_eq h rfl rfl)
      · exact (Cluster.Wanes.refl h).proceeds
    | run index => exact (h.runAt index).proceeds
    | reorder index entries =>
      exact Cluster.Wanes.proceeds (.of_eq h rfl (s.cluster.registrations_reorderAt index entries))
    | drain => exact h.drain.proceeds
    | shutdown graceMillis => exact (h.shutdown graceMillis).proceeds

/-- Registrations are accounted for throughout a session, and after a shutdown there are none. -/
theorem accounted_play (h : s.cluster.Accounted)
    (hquiet : s.cluster.closed = true → s.cluster.queue = []) (acts : List Act) :
    (s.play acts).cluster.Accounted ∧
      ((s.play acts).cluster.closed = true → (s.play acts).cluster.queue = []) := by
  induction acts generalizing s with
  | nil => exact ⟨h, hquiet⟩
  | cons a acts ih => exact ih (proceeds_act h hquiet a).accounted (quiet_act hquiet a)

theorem accounted_start : (start virtualNodes replicationFactor writeTimeout units).cluster.Accounted :=
  ⟨List.nodup_nil, fun _ hmem => absurd hmem List.not_mem_nil, List.nodup_nil,
    fun _ hmem => absurd hmem List.not_mem_nil⟩

/-- As long as migrations end in order, each is covered. -/
theorem represented_play (h : s.cluster.Accounted)
    (hquiet : s.cluster.closed = true → s.cluster.queue = []) (hrepresented : s.cluster.Represented)
    {acts : List Act} (horder : ∀ n < acts.length,
      (s.play (acts.take n)).cluster.EndsInOrder (s.play (acts.take (n + 1))).cluster) :
    (s.play acts).cluster.Represented := by
  induction acts generalizing s with
  | nil => exact hrepresented
  | cons a acts ih =>
    have hproceeds := proceeds_act h hquiet a
    have hfirst : s.cluster.EndsInOrder (s.act a).cluster := horder 0 (Nat.zero_lt_succ _)
    exact ih hproceeds.accounted (quiet_act hquiet a) (hrepresented.proceeds h hproceeds hfirst)
      fun n hn => horder (n + 1) (Nat.succ_lt_succ hn)

/-! ### Tasks that run to their end, oldest first -/

/-- Whether tasks run one after the other and each to its end in the act. A migration does a stint if
no older one is queued, and a put that is waited for finds no tasks that take longer than a stint. -/
def InOrder (c : Cluster) : Act → Prop
  | .event (.run index) => ∀ task, c.queue[index]? = some task → ∀ own ∈ task.registration?,
      ∀ registration ∈ c.registrations, own.ticket ≤ registration.ticket
  | .event (.put _ _) => c.round.queue = []
  | _ => True

theorem endsInOrder_run (h : s.cluster.Accounted) {index : Nat}
    (horder : InOrder s.cluster (.event (.run index))) :
    s.cluster.EndsInOrder (s.cluster.runAt index) := by
  intro ended hmem hgone registration hgoes hkind hid
  have hbefore := (h.runAt index).registrations registration hgoes
  cases queued : s.cluster.queue[index]? with
  | none =>
    rw [Cluster.runAt, queued] at hgone
    exact absurd hmem hgone
  | some task =>
    obtain ⟨m, g, hrun⟩ := Cluster.run_eq
      { s.cluster with queue := s.cluster.queue.eraseIdx index } task
    have hown : ended ∈ task.registration? := by
      have hqueued := (Cluster.registrations_perm queued).mem_iff.2 hmem
      rcases List.mem_append.1 hqueued with hown | hother
      · exact Option.mem_toList.1 hown
      · refine absurd ?_ hgone
        rw [Cluster.runAt, queued]
        dsimp only
        rw [hrun, Cluster.registrations, List.filterMap_append]
        exact List.mem_append_left _ hother
    refine Nat.lt_of_le_of_ne (horder task queued ended hown registration hbefore) fun hticket => ?_
    obtain ⟨kind, id, ticket⟩ := ended
    obtain rfl : registration = ⟨kind, id, ticket⟩ := by
      cases registration
      simp_all
    exact hgone hgoes

/-- If tasks run to their end, oldest first, then migrations end in order. -/
theorem endsInOrder_act (h : s.cluster.Accounted) {a : Act} (horder : InOrder s.cluster a) :
    s.cluster.EndsInOrder (s.act a).cluster := by
  have hnone : (s.act a).cluster.queue = [] → s.cluster.EndsInOrder (s.act a).cluster := by
    intro hqueue ended _ _ registration hgoes
    rw [Cluster.registrations, hqueue] at hgoes
    exact absurd hgoes List.not_mem_nil
  rcases queue_act s a with ⟨tail, hqueue, -⟩ | hqueue | ⟨-, hqueue, key, value, rfl⟩ |
    ⟨index, rfl | ⟨entries, rfl⟩⟩
  · -- nothing has ended
    intro ended hmem hgone
    refine absurd ?_ hgone
    rw [Cluster.registrations, hqueue, List.filterMap_append]
    exact List.mem_append_left _ hmem
  · exact hnone hqueue
  · exact hnone (hqueue.trans horder)
  · exact endsInOrder_run h horder
  · intro ended hmem hgone
    refine absurd ?_ hgone
    rwa [act, step, Cluster.registrations_reorderAt]

/-- At every moment of a session in which tasks run to their end, oldest first, or migrations of the
same kind and id end at least in the order in which they were registered, a cluster is rebalancing if
and only if a migration is queued. So it is not when nothing is queued or background work has come to
an end. -/
theorem isRebalancing_iff_queued {acts : List Act}
    (horder : let s := start virtualNodes replicationFactor writeTimeout units
      ∀ (n : Nat) (hn : n < acts.length), InOrder (s.play (acts.take n)).cluster acts[n] ∨
        (s.play (acts.take n)).cluster.EndsInOrder (s.play (acts.take (n + 1))).cluster) :
    let c := ((start virtualNodes replicationFactor writeTimeout units).play acts).cluster
    (c.isRebalancing = true ↔ ∃ task ∈ c.queue, task.isMigration = true) ∧
      (c.queue = [] → c.isRebalancing = false) ∧ (c.closed = true → c.isRebalancing = false) := by
  intro c
  have hstart : (start virtualNodes replicationFactor writeTimeout units).cluster.Represented :=
    fun _ hmem => absurd hmem List.not_mem_nil
  have haccounted : (start virtualNodes replicationFactor writeTimeout units).cluster.Accounted :=
    accounted_start
  have hplay := accounted_play haccounted fun _ => rfl
  obtain ⟨haccounted, hquiet⟩ := hplay acts
  have hrepresented : c.Represented := represented_play accounted_start (fun _ => rfl) hstart fun n hn => by
    refine (horder n hn).elim (fun hfirst => ?_) id
    rw [List.take_add_one, List.getElem?_eq_getElem hn, play_append]
    exact endsInOrder_act (hplay _).1 hfirst
  have hiff : c.isRebalancing = true ↔ ∃ task ∈ c.queue, task.isMigration = true := by
    rw [← Cluster.registrations_ne_nil_iff]
    exact ⟨haccounted.registrations_ne_nil, hrepresented.isRebalancing⟩
  have hidle : c.queue = [] → c.isRebalancing = false := by
    intro hnil
    rw [← Bool.not_eq_true, hiff, hnil]
    rintro ⟨task, hmem, -⟩
    exact List.not_mem_nil hmem
  exact ⟨hiff, hidle, fun hclosed => hidle (hquiet hclosed)⟩

/-- A unit is admitted, removed and admitted again before the first migration onto it has run, whose
place in the registry is taken by the second one. Then the first one ends. -/
theorem isRebalancing_iff_queued_replaced :
    let acts : List Act := [.event (.addNode "c" "localhost" 8002), .event (.removeNode "c"),
      .event (.submit "x" "v"), .event (.addNode "c" "localhost" 8003), .event (.run 0)]
    let s := start 1 2 5000 [⟨"a", "localhost", 8000⟩, ⟨"b", "localhost", 8001⟩]
    let c := (s.play acts).cluster
    (∀ n < acts.length,
        (s.play (acts.take n)).cluster.EndsInOrder (s.play (acts.take (n + 1))).cluster) ∧
      c.queue.map (·.isMigration) = [false, false, true] ∧ c.isRebalancing = true := by
  intro acts s c
  have h : (∀ n < acts.length,
        (s.play (acts.take n)).cluster.EndsInOrder (s.play (acts.take (n + 1))).cluster) ∧
      c.queue.map (·.isMigration) = [false, false, true] := by
    decide +kernel
  obtain ⟨horder, hqueue⟩ := h
  have hqueued : ∃ task ∈ c.queue, task.isMigration = true := by
    have hmem : true ∈ c.queue.map (·.isMigration) := by
      rw [hqueue]
      decide
    exact List.mem_map.1 hmem
  subst c s
  exact ⟨horder, hqueue, (isRebalancing_iff_queued fun n hn => Or.inr (horder n hn)).1.2 hqueued⟩

end Session

end QuorumRing
