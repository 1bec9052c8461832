import QuorumRing.Proofs.Cluster.Acts
import QuorumRing.Proofs.Cluster.Survival

/-!
# Tasks that bring a key back

Two kinds of tasks bring a key to its replicas whatever has been deleted since they were queued: the
redistribution that has an entry of it left, and the migration onto a replica of the key that has not
come to the key and will find it with somebody (`Task.Recalls`). Nothing else does: while all members
are active and no value is put, an event changes nothing about whether the key is served or will be
(`Returns`).

A stint either leaves the copies of a key as they are, or recalls the key, and then a replica holds it
(`unchanged_or_recalled`).
-/

namespace QuorumRing

variable {fleet fleet' : Fleet} {r : Nat} {key : String} {task left : Task}
  {queue queue' : List Task} {index : Nat}

/-- Some replica of the key holds it. -/
def Fleet.Serves (fleet : Fleet) (r : Nat) (key : String) : Prop :=
  ∃ unit ∈ fleet.replicas key r, (fleet.copy unit key).isSome

/-- The task would bring the key to a replica, whatever was deleted meanwhile. -/
def Task.Recalls (fleet : Fleet) (r : Nat) (key : String) : Task → Prop
  | .write .. => False
  | .join unit _ => unit ∈ fleet.replicas key r ∧ key ∈ fleet.storedKeys
  | .pull unit others keys _ => unit ∈ fleet.replicas key r ∧ key ∈ keys ∧
      ∃ other ∈ others, (fleet.get other).containsKey key = true
  | .leave entries _ => key ∈ entries.map (·.1) ∧ fleet.replicas key r ≠ []

instance (fleet : Fleet) (r : Nat) (key : String) :
    (task : Task) → Decidable (task.Recalls fleet r key)
  | .write .. => inferInstanceAs (Decidable False)
  | .join unit _ =>
    inferInstanceAs (Decidable (unit ∈ fleet.replicas key r ∧ key ∈ fleet.storedKeys))
  | .pull unit others keys _ =>
    inferInstanceAs (Decidable (unit ∈ fleet.replicas key r ∧ key ∈ keys ∧
      ∃ other ∈ others, (fleet.get other).containsKey key = true))
  | .leave entries _ =>
    inferInstanceAs (Decidable (key ∈ entries.map (·.1) ∧ fleet.replicas key r ≠ []))

/-- A queued task would bring the key to a replica. -/
def Cluster.Recalls (c : Cluster) (key : String) : Prop :=
  ∃ task ∈ c.queue, task.Recalls c.fleet c.replicationFactor key

instance (c : Cluster) (key : String) : Decidable (c.Recalls key) :=
  inferInstanceAs (Decidable (∃ task ∈ c.queue, task.Recalls c.fleet c.replicationFactor key))

/-- Some replica holds the key, or a queued task will see to it. -/
def Returns (fleet : Fleet) (r : Nat) (queue : List Task) (key : String) : Prop :=
  fleet.Serves r key ∨ ∃ task ∈ queue, task.Recalls fleet r key

/-! ## What one stint does -/

section Tasks

/-- Whether a key is served depends on the replicas and on their copies. -/
theorem serves_congr (hreplicas : fleet'.replicas key r = fleet.replicas key r)
    (hcopy : ∀ w ∈ fleet.replicas key r, fleet'.copy w key = fleet.copy w key) :
    fleet'.Serves r key ↔ fleet.Serves r key := by
  unfold Fleet.Serves
  rw [hreplicas]
  exact exists_congr fun w => and_congr_right fun hw => by rw [hcopy w hw]

/-- Fewer copies recall no more. -/
theorem Task.Recalls.of_copies (hring : fleet'.ring = fleet.ring)
    (hreplicas : fleet'.replicas key r = fleet.replicas key r)
    (hactive : fleet'.pool.isActive = fleet.pool.isActive)
    (hcopy : ∀ w, (fleet'.copy w key).isSome → (fleet.copy w key).isSome)
    (h : task.Recalls fleet' r key) : task.Recalls fleet r key := by
  cases task with
  | write => exact h
  | join unit _ => exact ⟨hreplicas ▸ h.1, storedKeys_of_copies hring.symm hcopy h.2⟩
  | pull unit others keys _ =>
    obtain ⟨hunit, hkey, other, hother, hheld⟩ := h
    rw [Fleet.containsKey_eq, Bool.and_eq_true, hactive] at hheld
    refine ⟨hreplicas ▸ hunit, hkey, other, hother, ?_⟩
    rw [Fleet.containsKey_eq, hheld.1, hcopy other hheld.2, Bool.and_self]
  | leave entries _ => exact ⟨h.1, hreplicas ▸ h.2⟩

theorem recalls_congr (hshape : Fleet.SameShape fleet fleet')
    (hcopy : ∀ w, fleet'.copy w key = fleet.copy w key) :
    task.Recalls fleet' r key ↔ task.Recalls fleet r key :=
  ⟨.of_copies hshape.ring (hshape.replicas key r) hshape.active fun w hw => by rwa [← hcopy],
    .of_copies hshape.ring.symm (hshape.replicas key r).symm hshape.active.symm fun w hw => by rwa [hcopy]⟩

/-- To bring keys onto a unit leaves the copies of a key as they are, or else the unit is a replica of
the key and takes it over from somebody. -/
theorem unchanged_or_pulled (hs : fleet.ring.Sound) {unit : UnitRef}
    (hfree : unit ∈ fleet.units ∨ fleet.pool.isActive unit = false) (others : List UnitRef)
    (report : MigrationReport) (keys : List String) :
    let after := (fleet.pullAll r unit others report keys).2
    (∀ w, after.copy w key = fleet.copy w key) ∨
      (after.Serves r key ∧ unit ∈ fleet.replicas key r ∧ key ∈ keys ∧
        ∃ other ∈ others, (fleet.get other).containsKey key = true) := by
  intro after
  by_cases hkey : key ∈ keys
  · cases hactive : fleet.pool.isActive unit with
    | false =>
      refine Or.inl fun w => ?_
      rw [Fleet.copy_pullAll, if_pos hkey, Fleet.copy_pull, if_neg (by simp [hactive])]
    | true =>
      cases hdonor : fleet.donor? r unit others key with
      | none =>
        refine Or.inl fun w => ?_
        rw [Fleet.copy_pullAll, if_pos hkey, Fleet.pull_of_donor?_eq_none hdonor]
      | some donor =>
        obtain ⟨source, stale⟩ := donor
        obtain ⟨hother, hsource, hheld⟩ := Fleet.donor?_spec hdonor
        have hmember := hfree.resolve_right (by simp [hactive])
        have hunit : unit ∈ fleet.replicas key r := by
          by_contra hnot
          rw [Fleet.donor?_of_not_mem hs hmember hnot] at hdonor
          cases hdonor
        refine Or.inr ⟨⟨unit, ?_, ?_⟩, hunit, hkey, source, hother, ?_⟩
        · rwa [(Fleet.sameShape_pullAll fleet r unit others report keys).replicas]
        · rw [Fleet.copy_pullAll, if_pos hkey, Fleet.copy_pull, if_pos ⟨rfl, hactive⟩, hdonor]
          dsimp only
          rwa [if_pos rfl]
        · rw [Fleet.containsKey_eq, hsource, hheld, Bool.and_self]
  · refine Or.inl fun w => ?_
    rw [Fleet.copy_pullAll, if_neg hkey]

/-- A replica that is asked to take a key over holds it afterwards, if anybody does. -/
theorem serves_pullAll (hs : fleet.ring.Sound) {unit other : UnitRef} {others : List UnitRef}
    (report : MigrationReport) {keys : List String} (hunit : unit ∈ fleet.replicas key r)
    (hkey : key ∈ keys) (hother : other ∈ others)
    (hheld : (fleet.get other).containsKey key = true) :
    (fleet.pullAll r unit others report keys).2.Serves r key := by
  refine ⟨unit, ?_, ?_⟩
  · rwa [(Fleet.sameShape_pullAll fleet r unit others report keys).replicas]
  rw [Fleet.copy_pullAll, if_pos hkey, Fleet.copy_pull,
    if_pos ⟨rfl, Fleet.isActive_of_mem_replicas hs hunit⟩]
  cases hdonor : fleet.donor? r unit others key with
  | some donor =>
    obtain ⟨source, stale⟩ := donor
    dsimp only
    rw [if_pos rfl]
    exact (Fleet.donor?_spec hdonor).2.2
  | none =>
    dsimp only
    by_contra hlacks
    have hlacks : fleet.copy unit key = none := Option.not_isSome_iff_eq_none.1 hlacks
    rw [Fleet.donor?_of_mem hunit hlacks] at hdonor
    split at hdonor
    · simp at hdonor
    · have hnobody := List.head?_eq_none_iff.1 (Option.map_eq_none_iff.1 hdonor)
      exact List.filter_eq_nil_iff.1 hnobody other hother hheld

/-- A stint leaves the copies of a key that it does not write as they are, or it recalls the key. -/
theorem unchanged_or_recalled (hs : fleet.ring.Sound) (hwelcome : Welcome fleet queue)
    (hmem : task ∈ queue) (hkey : task.key? ≠ some key) :
    (∀ w, (task.effect r fleet).copy w key = fleet.copy w key) ∨
      ((task.effect r fleet).Serves r key ∧ task.Recalls fleet r key) := by
  cases task with
  | write target j value =>
    have hother : key ≠ j := fun heq => hkey (congrArg some heq.symm)
    refine Or.inl fun w => ?_
    rw [Task.effect, Fleet.copy_attempt_put, if_neg fun h => hother h.2.1]
  | join unit registration =>
    refine (unchanged_or_pulled hs (hwelcome _ hmem unit rfl) _ _ _).imp_right ?_
    rintro ⟨hserves, hunit, -, other, hother, hheld⟩
    rw [Fleet.containsKey_eq, Bool.and_eq_true] at hheld
    exact ⟨hserves, hunit,
      Fleet.mem_storedKeys.2 ⟨other, (List.mem_filter.1 hother).1, hheld.2⟩⟩
  | pull unit others keys registration =>
    refine (unchanged_or_pulled hs (hwelcome _ hmem unit rfl) _ _ _).imp_right ?_
    rintro ⟨hserves, hunit, hserved, hheld⟩
    exact ⟨hserves, hunit, List.mem_of_mem_take hserved, hheld⟩
  | leave entries registration =>
    by_cases hserved : key ∈ (entries.take Task.stint).map (·.1) ∧ fleet.replicas key r ≠ []
    · obtain ⟨hentry, hne⟩ := hserved
      obtain ⟨w, hw⟩ := List.exists_mem_of_ne_nil _ hne
      have hcarried : key ∈ entries.map (·.1) := by
        rw [List.map_take] at hentry
        exact List.mem_of_mem_take hentry
      refine Or.inr ⟨⟨w, ?_, ?_⟩, hcarried, hne⟩
      · rwa [(Task.sameShape_effect r fleet _).replicas]
      · rw [Task.effect, Fleet.copy_redistribute hs, if_pos hw, Option.isSome_or,
          Fleet.lookup_reverse_isSome.2 hentry, Bool.true_or]
    · refine Or.inl fun w => ?_
      rw [Task.effect, Fleet.copy_redistribute hs]
      split
      next hw =>
        have hnone : key ∉ (entries.take Task.stint).map (·.1) := fun hentry =>
          hserved ⟨hentry, List.ne_nil_of_mem hw⟩
        rw [← Fleet.lookup_reverse_isSome, Option.not_isSome_iff_eq_none] at hnone
        rw [hnone, Option.none_or]
      · rfl

/-- A key that is served stays served. -/
theorem serves_effect (hs : fleet.ring.Sound) (hwelcome : Welcome fleet queue)
    (hmem : task ∈ queue) (hkey : task.key? ≠ some key) (h : fleet.Serves r key) :
    (task.effect r fleet).Serves r key := by
  rcases unchanged_or_recalled (r := r) hs hwelcome hmem hkey with hcopy | ⟨hserves, -⟩
  · exact (serves_congr ((task.sameShape_effect r fleet).replicas key r) fun w _ => hcopy w).2 h
  · exact hserves

/-- If all members are active, a migration that is to begin finds whatever is stored, unless the key
is served anyway. -/
theorem recalls_begun (hs : fleet.ring.Sound)
    (hactive : ∀ unit ∈ fleet.units, fleet.pool.isActive unit = true)
    (h : task.Recalls fleet r key) :
    fleet.Serves r key ∨ (task.begun fleet).Recalls fleet r key := by
  cases task with
  | write | pull | leave => exact Or.inr h
  | join unit registration =>
    obtain ⟨hunit, hstored⟩ := h
    obtain ⟨holder, hholder, hheld⟩ := Fleet.mem_storedKeys.1 hstored
    by_cases hsame : holder = unit
    · exact Or.inl ⟨unit, hunit, hsame ▸ hheld⟩
    · have hmember := Fleet.mem_units_of_mem_replicas hs hunit
      have hother : holder ∈ fleet.others unit :=
        List.mem_filter.2 ⟨hholder, bne_iff_ne.2 fun hid =>
          hsame (Fleet.eq_of_id_eq hs hholder hmember hid)⟩
      refine Or.inr ⟨hunit, ?_, holder, hother, ?_⟩
      · exact Std.ExtTreeSet.mem_toList.2 (Fleet.mem_keysOn.2 ⟨holder, hother, hheld⟩)
      · rw [Fleet.containsKey_eq, hactive holder hholder, hheld, Bool.and_self]

/-- What is left of a task recalls no key that the task did not recall. -/
theorem recalls_of_rest (hleft : task.rest fleet = some left) (h : left.Recalls fleet r key) :
    task.Recalls fleet r key := by
  rcases Task.rest_eq_some hleft with ⟨unit, others, keys, registration, hbegun, -, rfl⟩ |
    ⟨entries, registration, rfl, -, rfl⟩
  · obtain ⟨hunit, hkey, hother⟩ := h
    cases task with
    | join =>
      cases hbegun
      obtain ⟨other, hmem, hheld⟩ := hother
      rw [Fleet.containsKey_eq, Bool.and_eq_true] at hheld
      exact ⟨hunit, Fleet.mem_storedKeys.2 ⟨other, (List.mem_filter.1 hmem).1, hheld.2⟩⟩
    | pull =>
      cases hbegun
      exact ⟨hunit, List.mem_of_mem_drop hkey, hother⟩
    | write | leave => simp [Task.begun] at hbegun
  · rw [Task.Recalls, List.map_drop] at h
    exact ⟨List.mem_of_mem_drop h.1, h.2⟩

theorem recalls_reorder (entries : List (String × String)) :
    (task.reorder entries).Recalls fleet r key ↔ task.Recalls fleet r key := by
  rcases task.reorder_eq entries with hsame | ⟨old, registration, rfl, hperm, hreorder⟩
  · rw [hsame]
  · rw [hreorder]
    exact and_congr_left' (hperm.map _).mem_iff

/-- A task that recalls a key brings it to a replica in the next stint, or else what is left of it
recalls the key still. -/
theorem serves_or_recalls_rest (hs : fleet.ring.Sound) (hwelcome : Welcome fleet queue)
    (hmem : task ∈ queue) (hkey : task.key? ≠ some key)
    (hactive : ∀ unit ∈ fleet.units, fleet.pool.isActive unit = true)
    (h : task.Recalls fleet r key) : (task.effect r fleet).Serves r key ∨
      ∃ left, task.rest fleet = some left ∧ left.Recalls fleet r key := by
  rcases recalls_begun hs hactive h with hserved | hbegun
  · exact Or.inl (serves_effect hs hwelcome hmem hkey hserved)
  cases task with
  | write => exact hbegun.elim
  | join | pull =>
    obtain ⟨hunit, hleft, other, hother, hheld⟩ := hbegun
    rcases Task.mem_take_or_remainder hleft with hserved | ⟨left, hrest, hleft⟩
    · exact Or.inl (serves_pullAll hs _ hunit hserved hother hheld)
    · exact Or.inr ⟨_, congrArg (Option.map _) hrest, hunit, hleft, other, hother, hheld⟩
  | leave entries registration =>
    obtain ⟨hcarried, hne⟩ := hbegun
    obtain ⟨entry, hentry, rfl⟩ := List.mem_map.1 hcarried
    rcases Task.mem_take_or_remainder hentry with hserved | ⟨left, hrest, hleft⟩
    · obtain ⟨w, hw⟩ := List.exists_mem_of_ne_nil _ hne
      refine Or.inl ⟨w, ?_, ?_⟩
      · rwa [(Task.sameShape_effect r fleet _).replicas]
      · rw [Task.effect, Fleet.copy_redistribute hs, if_pos hw, Option.isSome_or,
          Fleet.lookup_reverse_isSome.2 (List.mem_map_of_mem hserved), Bool.true_or]
    · exact Or.inr ⟨_, congrArg (Option.map _) hrest, List.mem_map_of_mem hleft, hne⟩

/-- A stint does not change whether the key returns. -/
theorem returns_effect (hs : fleet.ring.Sound)
    (hactive : ∀ unit ∈ fleet.units, fleet.pool.isActive unit = true)
    (hwelcome : Welcome fleet queue) (hkeys : ∀ task ∈ queue, task.key? ≠ some key)
    (queued : queue[index]? = some task) :
    Returns (task.effect r fleet) r (queue.eraseIdx index ++ (task.rest fleet).toList) key ↔
      Returns fleet r queue key := by
  have hmem : task ∈ queue := List.mem_of_getElem? queued
  have hserves := serves_effect (r := r) hs hwelcome hmem (hkeys task hmem)
  rcases unchanged_or_recalled (r := r) hs hwelcome hmem (hkeys task hmem) with
    hcopy | ⟨hserved, hrecalls⟩
  · have hcongr : ∀ {other : Task},
        other.Recalls (task.effect r fleet) r key ↔ other.Recalls fleet r key :=
      recalls_congr (task.sameShape_effect r fleet) hcopy
    have hsame : (task.effect r fleet).Serves r key ↔ fleet.Serves r key :=
      serves_congr ((task.sameShape_effect r fleet).replicas key r) fun w _ => hcopy w
    constructor
    · rintro (hnow | ⟨other, hother, hrecalls⟩)
      · exact Or.inl (hsame.1 hnow)
      · rcases List.mem_append.1 hother with hold | hleft
        · exact Or.inr ⟨other, List.mem_of_mem_eraseIdx hold, hcongr.1 hrecalls⟩
        · exact Or.inr ⟨task, hmem,
            recalls_of_rest (Option.mem_toList.1 hleft) (hcongr.1 hrecalls)⟩
    · rintro (hnow | ⟨other, hother, hrecalls⟩)
      · exact Or.inl (hserves hnow)
      · rcases (mem_queue_iff queued).1 hother with rfl | hrest
        · refine (serves_or_recalls_rest hs hwelcome hmem (hkeys _ hmem) hactive hrecalls).imp_right
            ?_
          rintro ⟨left, hleft, hrecalls⟩
          exact ⟨left, List.mem_append_right _ (Option.mem_toList.2 hleft), hcongr.2 hrecalls⟩
        · exact Or.inr ⟨other, List.mem_append_left _ hrest, hcongr.2 hrecalls⟩
  · exact iff_of_true (Or.inl hserved) (Or.inr ⟨task, hmem, hrecalls⟩)

/-! ## What stints do -/

/-- Another order of the entries does not change whether the key returns. -/
theorem returns_reorder (index : Nat) (entries : List (String × String)) :
    Returns fleet r (queue.modify index (·.reorder entries)) key ↔ Returns fleet r queue key := by
  refine or_congr_right ⟨?_, ?_⟩
  · rintro ⟨task, hmem, hrecalls⟩
    rcases mem_queue_modify hmem with hsame | ⟨old, hold, rfl⟩
    · exact ⟨task, hsame, hrecalls⟩
    · exact ⟨old, hold, (recalls_reorder entries).1 hrecalls⟩
  · rintro ⟨task, hmem, hrecalls⟩
    rcases mem_modify_queue index (·.reorder entries) hmem with hsame | hchanged
    · exact ⟨task, hsame, hrecalls⟩
    · exact ⟨_, hchanged, (recalls_reorder entries).2 hrecalls⟩

/-- Stints do not change whether the key returns. -/
theorem returns_stints (hs : fleet.ring.Sound)
    (hactive : ∀ unit ∈ fleet.units, fleet.pool.isActive unit = true)
    (hwelcome : Welcome fleet queue) (hkeys : ∀ task ∈ queue, task.key? ≠ some key)
    (hstints : Stints r fleet queue fleet' queue') :
    Returns fleet' r queue' key ↔ Returns fleet r queue key := by
  refine hstints.induction (P := fun f q => Returns f r q key ↔ Returns fleet r queue key) Iff.rfl ?_
    fun f q index entries hreturns => (returns_reorder index entries).trans hreturns
  intro f q index task hbefore queued hreturns
  have hshape := hbefore.sameShape
  have hmembers : ∀ unit ∈ f.units, f.pool.isActive unit = true := by
    rw [hshape.units, hshape.active]
    exact hactive
  exact (returns_effect (hshape.ring ▸ hs) hmembers (hwelcome.stints hbefore)
    (hbefore.key?_ne hkeys) queued).trans hreturns

theorem returns_nil : Returns fleet r [] key ↔ fleet.Serves r key :=
  or_iff_left fun ⟨_, hmem, _⟩ => List.not_mem_nil hmem

end Tasks

/-! ## What one event does -/

/-- A put of the key. -/
def Event.puts (key : String) : Event → Bool
  | .put k _ | .submit k _ => k == key
  | _ => false

theorem Event.puts_of_supply? {event : Event} {value : String}
    (h : (Act.event event).supply? = some (key, value)) : event.puts key = true := by
  cases event with
  | put k _ =>
    obtain ⟨rfl, -⟩ := Prod.mk.inj (Option.some.inj h)
    exact beq_self_eq_true k
  | submit k _ =>
    obtain ⟨rfl, -⟩ := Prod.mk.inj (Option.some.inj h)
    exact beq_self_eq_true k
  | _ => simp [Act.supply?] at h

section Events

variable {c : Cluster} {event : Event} {queue : List Task}

theorem returns_of_copies (hshape : Fleet.SameShape fleet fleet')
    (hcopy : ∀ w, fleet'.copy w key = fleet.copy w key) :
    Returns fleet' r queue key ↔ Returns fleet r queue key :=
  or_congr (serves_congr (hshape.replicas key r) fun w _ => hcopy w)
    (exists_congr fun _ => and_congr_right fun _ => recalls_congr hshape hcopy)

/-- Writes recall no key. -/
theorem returns_append_writes (targets : List UnitRef) (j value : String) :
    Returns fleet r (queue ++ targets.map (.write · j value)) key ↔
      Returns fleet r queue key := by
  refine or_congr_right ⟨?_, ?_⟩
  · rintro ⟨task, hmem, hrecalls⟩
    rcases List.mem_append.1 hmem with hold | hnew
    · exact ⟨task, hold, hrecalls⟩
    · obtain ⟨target, -, rfl⟩ := List.mem_map.1 hnew
      exact hrecalls.elim
  · rintro ⟨task, hmem, hrecalls⟩
    exact ⟨task, List.mem_append_left _ hmem, hrecalls⟩

/-- A repair spreads the key among its replicas, but finds it only there. -/
theorem returns_repair (hs : fleet.ring.Sound) (j : String) :
    Returns (fleet.repair j r).2 r queue key ↔ Returns fleet r queue key := by
  have hshape := Fleet.sameShape_repair fleet j r
  by_cases hserves : key = j ∧ fleet.Serves r key
  · obtain ⟨rfl, hserves⟩ := hserves
    obtain ⟨w, hw, hheld⟩ := hserves
    refine iff_of_true (Or.inl ⟨w, ?_, ?_⟩) (Or.inl ⟨w, hw, hheld⟩)
    · rwa [hshape.replicas]
    · rw [Fleet.copy_repair hs, if_pos ⟨hw, rfl⟩]
      exact List.findSome?_isSome_iff.2 ⟨w, hw, hheld⟩
  · refine returns_of_copies hshape fun w => ?_
    rw [Fleet.copy_repair hs]
    split
    next hmended =>
      -- nobody holds the key among those that are mended
      obtain ⟨hw, rfl⟩ := hmended
      have hnone : ∀ u ∈ fleet.replicas key r, fleet.copy u key = none := fun u hu =>
        Option.not_isSome_iff_eq_none.1 fun hheld => hserves ⟨rfl, u, hu, hheld⟩
      rw [hnone w hw, List.findSome?_eq_none_iff]
      exact hnone
    · rfl

/-- Units that are switched while all members are active, before and after, stay as they are. -/
theorem sameShape_of_all_active (hswitching : Fleet.Switching fleet fleet')
    (hactive : ∀ unit ∈ fleet.units, fleet.pool.isActive unit = true)
    (hactive' : ∀ unit ∈ fleet'.units, fleet'.pool.isActive unit = true) :
    Fleet.SameShape fleet fleet' := by
  refine ⟨hswitching.ring, funext fun w => ?_⟩
  by_cases hw : w ∈ fleet.units
  · have hw' : w ∈ fleet'.units := by rwa [Fleet.units, hswitching.ring]
    rw [hactive w hw, hactive' w hw']
  · exact hswitching.outsider w hw

/-- While all members are active and nobody joins or leaves, an event other than a put or a delete
of the key does not change whether the key returns. -/
theorem Effect.returns (hs : c.fleet.ring.Sound)
    (hactive : ∀ unit ∈ c.fleet.units, c.fleet.pool.isActive unit = true)
    (hactive' : ∀ unit ∈ fleet.units, fleet.pool.isActive unit = true)
    (hunits : fleet.units = c.fleet.units) (hwelcome : Welcome c.fleet c.queue)
    (hkeys : ∀ task ∈ c.queue, task.key? ≠ some key) (hputs : event.puts key = false)
    (hdelete : event ≠ .delete key) (h : Effect c event fleet queue) :
    Returns fleet c.replicationFactor queue key ↔
      Returns c.fleet c.replicationFactor c.queue key := by
  cases h with
  | look shape copy => exact returns_of_copies shape (copy · key)
  | store j value stints =>
    have hj : key ≠ j := fun heq => by simp [Event.puts, heq] at hputs
    refine (returns_of_copies (Fleet.sameShape_storeOn _ j value _) fun w => ?_).trans
      (returns_stints hs hactive hwelcome hkeys stints)
    rw [Fleet.copy_storeOn, if_neg fun h => hj h.2.1]
  | submit j value => exact returns_append_writes _ j value
  | @delete j _ shape copy =>
    have hj : key ≠ j := fun heq => hdelete (congrArg Event.delete heq.symm)
    refine returns_of_copies shape fun w => ?_
    rw [copy, if_neg fun h => hj h.2]
  | join _ admission => exact absurd hunits (Ring.units_ne_of_insert? hs admission.inserted)
  | depart departure _ => exact absurd hunits (Ring.units_ne_of_erase? hs departure.erased)
  | leave _ departure => exact absurd hunits (Ring.units_ne_of_erase? hs departure.erased)
  | repair j => exact returns_repair hs j
  | switch switching =>
    exact returns_of_copies (sameShape_of_all_active switching hactive hactive')
      (switching.copy · key)
  | work stints => exact returns_stints hs hactive hwelcome hkeys stints

/-- After a delete the key is not served, and it returns only if it would have returned anyway. -/
theorem returns_of_delete (hs : c.fleet.ring.Sound) (key : String) :
    let after := (c.delete key).2
    ¬after.fleet.Serves c.replicationFactor key ∧
      (Returns after.fleet c.replicationFactor after.queue key →
        Returns c.fleet c.replicationFactor c.queue key) := by
  obtain ⟨f, m, hdelete, hshape, hcopy⟩ := Cluster.delete_snd hs key
  have hreplicas := hshape.replicas key c.replicationFactor
  rw [hdelete]
  have hunserved : ¬f.Serves c.replicationFactor key := by
    rintro ⟨w, hw, hheld⟩
    rw [hreplicas] at hw
    rw [hcopy, if_pos ⟨hw, rfl⟩] at hheld
    simp at hheld
  refine ⟨hunserved, fun hreturns => ?_⟩
  obtain ⟨task, hmem, hrecalls⟩ := hreturns.resolve_left hunserved
  refine Or.inr ⟨task, hmem, hrecalls.of_copies hshape.ring hreplicas hshape.active fun w hw => ?_⟩
  rw [hcopy] at hw
  split at hw
  · simp at hw
  · exact hw

end Events

end QuorumRing
