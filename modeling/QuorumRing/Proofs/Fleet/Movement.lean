import QuorumRing.Proofs.Fleet.Membership

/-!
# What a movement of data does to the copies

A redistribution puts every entry on all replicas of its key (`Fleet.copy_redistribute`). A
migration treats every key by itself: the new unit takes over the copy of a donor, if it is a
replica without a copy of its own, and a donor that is no replica gives its copy up
(`Fleet.copy_migrate`).
-/

namespace QuorumRing.Fleet

variable {fleet fleet' : Fleet} {r : Nat} {key value : String}

/-! ## Storing on several units -/

theorem sameShape_storeOn (fleet : Fleet) (key value : String) (units : List UnitRef) :
    SameShape fleet (fleet.storeOn key value units).2 := by
  induction units generalizing fleet with
  | nil => exact SameShape.refl fleet
  | cons unit units ih => exact (sameShape_attempt_put fleet unit key value).trans (ih _)

theorem copy_storeOn (fleet : Fleet) (key value : String) (units : List UnitRef) (w : UnitRef)
    (j : String) : (fleet.storeOn key value units).2.copy w j =
      if w ∈ units ∧ j = key ∧ fleet.pool.isActive w then some value else fleet.copy w j := by
  induction units generalizing fleet with
  | nil => simp [storeOn]
  | cons unit units ih =>
    refine (ih (fleet.attempt unit (·.put key value)).2).trans ?_
    rw [(sameShape_attempt_put fleet unit key value).active, copy_attempt_put]
    by_cases hw : w = unit
    · subst hw
      cases fleet.pool.isActive w <;> by_cases hj : j = key <;> simp [hj]
    · simp [hw]

/-! ## Redistribution -/

theorem lookup_of_distinct {entries : List (String × String)} {j value : String}
    (hkeys : entries.Pairwise fun a b => a.1 ≠ b.1) (hmem : (j, value) ∈ entries) :
    entries.lookup j = some value := by
  induction entries with
  | nil => exact absurd hmem List.not_mem_nil
  | cons entry entries ih =>
    obtain ⟨hfresh, hkeys⟩ := List.pairwise_cons.1 hkeys
    rcases List.mem_cons.1 hmem with rfl | hmem
    · exact List.lookup_cons_self
    · have hne : j ≠ entry.1 := (hfresh _ hmem).symm
      rw [List.lookup_cons, beq_false_of_ne hne]
      exact ih hkeys hmem

theorem lookup_reverse_toList (entries : Contents) (j : String) :
    entries.toList.reverse.lookup j = entries[j]? := by
  cases hj : entries[j]? with
  | none =>
    rw [List.lookup_eq_none_iff]
    rintro ⟨k, v⟩ hmem
    have hk := Std.ExtTreeMap.mem_toList_iff_getElem?_eq_some.1 (List.mem_reverse.1 hmem)
    by_cases hjk : j = k
    · rw [hjk, hk] at hj
      simp at hj
    · simpa using hjk
  | some v =>
    have hmem := Std.ExtTreeMap.mem_toList_iff_getElem?_eq_some.2 hj
    refine lookup_of_distinct (List.pairwise_reverse.2 ?_) (List.mem_reverse.2 hmem)
    exact entries.distinct_keys_toList.imp fun h => (Std.ReflCmp.ne_of_cmp_ne_eq h).symm

/-- An entry that is found among some is one of them. -/
theorem mem_of_lookup_reverse {entries : List (String × String)} {j value : String}
    (h : entries.reverse.lookup j = some value) : (j, value) ∈ entries := by
  obtain ⟨before, after, hsplit, -⟩ := List.lookup_eq_some_iff.1 h
  rw [← List.mem_reverse, hsplit]
  exact List.mem_append_right _ List.mem_cons_self

theorem lookup_reverse_isSome {entries : List (String × String)} {j : String} :
    (entries.reverse.lookup j).isSome ↔ j ∈ entries.map (·.1) := by
  simp [List.lookup_isSome_iff, Prod.exists, eq_comm (a := j)]

theorem redistribute_cons (fleet : Fleet) (r : Nat) (key value : String)
    (entries : List (String × String)) : (fleet.redistribute r ((key, value) :: entries)).2 =
      ((fleet.storeOn key value (fleet.replicas key r)).2.redistribute r entries).2 := by
  simp only [redistribute]
  split <;> rfl

theorem sameShape_redistribute (fleet : Fleet) (r : Nat) (entries : List (String × String)) :
    SameShape fleet (fleet.redistribute r entries).2 := by
  induction entries generalizing fleet with
  | nil => exact SameShape.refl fleet
  | cons entry entries ih =>
    obtain ⟨key, value⟩ := entry
    rw [redistribute_cons]
    exact (sameShape_storeOn fleet _ _ _).trans (ih _)

theorem redistribute_append (fleet : Fleet) (r : Nat) (entries entries' : List (String × String)) :
    (fleet.redistribute r (entries ++ entries')).2 =
      ((fleet.redistribute r entries).2.redistribute r entries').2 := by
  induction entries generalizing fleet with
  | nil => rfl
  | cons entry entries ih =>
    obtain ⟨key, value⟩ := entry
    rw [List.cons_append, redistribute_cons, redistribute_cons, ih]

/-- After a redistribution the replicas of a key hold its last entry, if there is one. -/
theorem copy_redistribute (hs : fleet.ring.Sound) (r : Nat) (entries : List (String × String))
    (w : UnitRef) (j : String) : (fleet.redistribute r entries).2.copy w j =
      if w ∈ fleet.replicas j r then (entries.reverse.lookup j).or (fleet.copy w j)
      else fleet.copy w j := by
  induction entries generalizing fleet with
  | nil => simp [redistribute]
  | cons entry entries ih =>
    obtain ⟨key, value⟩ := entry
    have hshape := sameShape_storeOn fleet key value (fleet.replicas key r)
    rw [redistribute_cons, ih (hshape.ring ▸ hs), hshape.replicas, copy_storeOn, List.reverse_cons,
      List.lookup_append]
    by_cases hw : w ∈ fleet.replicas j r
    · by_cases hj : j = key
      · subst hj
        have hactive := isActive_of_mem_replicas hs hw
        simp [hw, hactive]
      · simp [hw, hj, List.lookup_cons, beq_false_of_ne hj]
    · by_cases hj : j = key
      · subst hj
        simp [hw]
      · simp [hw, hj]

theorem copy_redistribute_contents (hs : fleet.ring.Sound) (r : Nat) (entries : Contents)
    (w : UnitRef) (j : String) : (fleet.redistribute r entries.toList).2.copy w j =
      if w ∈ fleet.replicas j r then entries[j]?.or (fleet.copy w j) else fleet.copy w j := by
  rw [copy_redistribute hs, lookup_reverse_toList]

/-! ## Migration of one key -/

/-- Where a new unit takes a key from, and whether the copy there is given up: nowhere, if the unit
is no replica of the key or holds it already. -/
def donor? (fleet : Fleet) (r : Nat) (target : UnitRef) (others : List UnitRef) (key : String) :
    Option (UnitRef × Bool) :=
  if ((fleet.replicas key r).map (·.id)).contains target.id &&
      !(fleet.get target).containsKey key then
    source? ((fleet.replicas key r).map (·.id))
      (others.filter fun unit => (fleet.get unit).containsKey key)
  else none

theorem mem_of_source? {owners : List String} {holders : List UnitRef} {source : UnitRef}
    {stale : Bool} (h : source? owners holders = some (source, stale)) : source ∈ holders := by
  unfold source? at h
  split at h
  next hfind =>
    cases h
    exact List.mem_of_find?_eq_some hfind
  · obtain ⟨u, hu, hpair⟩ := Option.map_eq_some_iff.1 h
    cases hpair
    exact List.mem_of_head? hu

/-- A donor is an active unit that holds the key. -/
theorem donor?_spec {target source : UnitRef} {others : List UnitRef} {stale : Bool}
    (h : fleet.donor? r target others key = some (source, stale)) :
    source ∈ others ∧ fleet.pool.isActive source = true ∧ (fleet.copy source key).isSome := by
  unfold donor? at h
  split at h
  · obtain ⟨hmem, hholds⟩ := List.mem_filter.1 (mem_of_source? h)
    rw [containsKey_eq, Bool.and_eq_true] at hholds
    exact ⟨hmem, hholds⟩
  · simp at h

/-- Whoever holds a key takes it from nobody. -/
theorem donor?_of_holds {target : UnitRef} {others : List UnitRef}
    (hactive : fleet.pool.isActive target = true) (hholds : (fleet.copy target key).isSome) :
    fleet.donor? r target others key = none := by
  rw [donor?, if_neg]
  simp [containsKey_eq, hactive, hholds]

/-- The new unit takes no key from itself. -/
theorem ne_of_donor? {target source : UnitRef} {others : List UnitRef} {stale : Bool}
    (h : fleet.donor? r target others key = some (source, stale)) : target ≠ source := by
  rintro rfl
  obtain ⟨-, hactive, hholds⟩ := donor?_spec h
  rw [donor?_of_holds hactive hholds] at h
  cases h

/-- A donor that gives its copy up is no replica. -/
theorem not_mem_replicas_of_stale {target source : UnitRef} {others : List UnitRef}
    (h : fleet.donor? r target others key = some (source, true)) : source ∉ fleet.replicas key r := by
  unfold donor? source? at h
  split at h
  · split at h
    next hfind =>
      cases h
      have hstray := List.find?_some hfind
      intro hmem
      simp [List.mem_map_of_mem (f := (·.id)) hmem] at hstray
    · obtain ⟨u, -, hpair⟩ := Option.map_eq_some_iff.1 h
      cases hpair
  · cases h

/-- The first of the units that holds the key without being a replica of it. -/
def stray? (fleet : Fleet) (r : Nat) (others : List UnitRef) (key : String) : Option UnitRef :=
  (others.filter fun unit => (fleet.get unit).containsKey key).find?
    fun unit => !((fleet.replicas key r).map (·.id)).contains unit.id

theorem donor?_of_not_mem (hs : fleet.ring.Sound) {target : UnitRef} {others : List UnitRef}
    (htarget : target ∈ fleet.units) (hnot : target ∉ fleet.replicas key r) :
    fleet.donor? r target others key = none := by
  rw [donor?, if_neg]
  intro hconcerned
  exact hnot ((contains_ids_iff hs htarget).1 (Bool.and_eq_true_iff.1 hconcerned).1)

/-- A new replica takes the key from the first stray holder, or else from the first holder. -/
theorem donor?_of_mem {target : UnitRef} {others : List UnitRef}
    (hmem : target ∈ fleet.replicas key r) (hlacks : fleet.copy target key = none) :
    fleet.donor? r target others key =
      match fleet.stray? r others key with
      | some unit => some (unit, true)
      | none =>
        (others.filter fun unit => (fleet.get unit).containsKey key).head?.map (·, false) := by
  have howner : ((fleet.replicas key r).map (·.id)).contains target.id = true :=
    List.contains_iff_mem.2 (List.mem_map_of_mem hmem)
  rw [donor?, if_pos]
  · rfl
  · rw [howner, containsKey_eq, hlacks, Option.isSome_none, Bool.and_false]
    rfl

/-- The choice of a donor looks at the shape of the fleet and at the copies of one key. -/
theorem donor?_congr (h : SameShape fleet fleet') {target : UnitRef} {others : List UnitRef}
    (hcopy : ∀ w, fleet'.copy w key = fleet.copy w key) :
    fleet'.donor? r target others key = fleet.donor? r target others key := by
  have hholds : ∀ w, (fleet'.get w).containsKey key = (fleet.get w).containsKey key := fun w => by
    rw [containsKey_eq, containsKey_eq, h.active, hcopy]
  simp only [donor?, h.replicas, hholds]

/-- Without a donor nothing is done about a key. -/
theorem pull_of_no_donor {target : UnitRef} {others : List UnitRef}
    (h : fleet.donor? r target others key = none) :
    fleet.pull r target others key = (.skipped, fleet) := by
  unfold pull
  dsimp only
  split
  · rfl
  next hconcerned =>
    rw [donor?, if_pos (by simpa using hconcerned)] at h
    rw [h]

/-- With a donor the new unit stores its value, and if that succeeds a stale donor gives the key
up. -/
theorem pull_of_donor {target source : UnitRef} {others : List UnitRef} {stale : Bool}
    (h : fleet.donor? r target others key = some (source, stale)) :
    ∃ value, fleet.copy source key = some value ∧ fleet.pull r target others key =
      let stored :=
        ((fleet.attempt source (·.get key)).2.attempt target (·.put key value)).2
      if fleet.pool.isActive target then
        if stale then (.moved, (stored.attempt source (·.remove key)).2) else (.copied, stored)
      else (.failed, stored) := by
  obtain ⟨-, hactive, hsome⟩ := donor?_spec h
  obtain ⟨value, hvalue⟩ := Option.isSome_iff_exists.1 hsome
  refine ⟨value, hvalue, ?_⟩
  have hread := attempt_get_fst hactive key
  rw [hvalue] at hread
  obtain ⟨read, hpair⟩ : ∃ read, fleet.attempt source (·.get key) = (.ok (some value), read) :=
    ⟨_, Prod.ext hread rfl⟩
  have hshape : read.pool.isActive = fleet.pool.isActive := by
    have := (sameShape_attempt_get fleet source key).active
    rwa [hpair] at this
  have hverdict := attempt_put_isOk read target key value
  unfold donor? at h
  split at h
  next hconcerned =>
    unfold pull
    dsimp only
    rw [if_neg (by simpa using hconcerned), h]
    simp only [hpair, ← hshape, ← hverdict]
    cases hput : read.attempt target (·.put key value) with
    | mk answer stored =>
      cases answer with
      | error e => simp [Except.isOk, Except.toBool]
      | ok previous => cases stale <;> simp [Except.isOk, Except.toBool]
  · simp at h

theorem pull_of_donor?_eq_none {target : UnitRef} {others : List UnitRef}
    (h : fleet.donor? r target others key = none) :
    (fleet.pull r target others key).2 = fleet := by
  rw [pull_of_no_donor h]

theorem pull_of_donor?_eq_some {target source : UnitRef} {others : List UnitRef} {stale : Bool}
    (h : fleet.donor? r target others key = some (source, stale)) :
    ∃ value, fleet.copy source key = some value ∧ (fleet.pull r target others key).2 =
      let stored :=
        ((fleet.attempt source (·.get key)).2.attempt target (·.put key value)).2
      if fleet.pool.isActive target && stale then (stored.attempt source (·.remove key)).2
      else stored := by
  obtain ⟨value, hvalue, hpull⟩ := pull_of_donor h
  refine ⟨value, hvalue, ?_⟩
  rw [hpull]
  cases fleet.pool.isActive target <;> cases stale <;> rfl

/-- What is reported of a key says where the new unit has got it from. -/
theorem pull_fst {target : UnitRef} {others : List UnitRef}
    (hactive : fleet.pool.isActive target = true) :
    (fleet.pull r target others key).1 =
      match fleet.donor? r target others key with
      | none => .skipped
      | some (_, stale) => if stale then .moved else .copied := by
  cases h : fleet.donor? r target others key with
  | none => rw [pull_of_no_donor h]
  | some donor =>
    obtain ⟨source, stale⟩ := donor
    obtain ⟨value, -, hpull⟩ := pull_of_donor h
    rw [hpull, hactive]
    cases stale <;> rfl

theorem sameShape_pull (fleet : Fleet) (r : Nat) (target : UnitRef) (others : List UnitRef)
    (key : String) : SameShape fleet (fleet.pull r target others key).2 := by
  cases h : fleet.donor? r target others key with
  | none =>
    rw [pull_of_donor?_eq_none h]
    exact SameShape.refl fleet
  | some donor =>
    obtain ⟨source, stale⟩ := donor
    obtain ⟨value, -, heq⟩ := pull_of_donor?_eq_some h
    have hstored := (sameShape_attempt_get fleet source key).trans
      (sameShape_attempt_put _ target key value)
    rw [heq]
    dsimp only
    split
    · exact hstored.trans (sameShape_attempt_remove _ source key)
    · exact hstored

/-- The copies after the migration of one key. -/
theorem copy_pull (fleet : Fleet) (r : Nat) (target : UnitRef) (others : List UnitRef)
    (key : String) (w : UnitRef) (j : String) :
    (fleet.pull r target others key).2.copy w j =
      if j = key ∧ fleet.pool.isActive target then
        match fleet.donor? r target others key with
        | none => fleet.copy w key
        | some (source, stale) =>
          if w = target then fleet.copy source key
          else if stale ∧ w = source then none
          else fleet.copy w key
      else fleet.copy w j := by
  cases h : fleet.donor? r target others key with
  | none =>
    rw [pull_of_donor?_eq_none h]
    by_cases hj : j = key <;> simp [hj]
  | some donor =>
    obtain ⟨source, stale⟩ := donor
    obtain ⟨value, hvalue, heq⟩ := pull_of_donor?_eq_some h
    obtain ⟨-, hactive, -⟩ := donor?_spec h
    have hne := ne_of_donor? h
    have hread := sameShape_attempt_get fleet source key
    have hstored := hread.trans (sameShape_attempt_put _ target key value)
    rw [heq]
    by_cases hj : j = key
    · subst hj
      by_cases htarget : w = target
      · subst htarget
        cases htarget : fleet.pool.isActive w <;> cases stale <;>
          simp [copy_attempt_remove, copy_attempt_put, copy_attempt_get, hread.active, htarget,
            hne, hvalue]
      · cases fleet.pool.isActive target <;> cases stale <;>
          simp [copy_attempt_remove, copy_attempt_put, copy_attempt_get, hstored.active, htarget,
            hactive]
    · dsimp only
      split <;> simp [copy_attempt_remove, copy_attempt_put, copy_attempt_get, hj]

/-! ## Migration of all keys -/

theorem sameShape_pullAll (fleet : Fleet) (r : Nat) (target : UnitRef) (others : List UnitRef)
    (report : MigrationReport) (keys : List String) :
    SameShape fleet (fleet.pullAll r target others report keys).2 := by
  induction keys generalizing fleet report with
  | nil => exact SameShape.refl fleet
  | cons key keys ih => exact (sameShape_pull fleet r target others key).trans (ih _ _)

theorem sameShape_migrate (fleet : Fleet) (target : UnitRef) (r : Nat) :
    SameShape fleet (fleet.migrate target r).2 :=
  sameShape_pullAll fleet r target _ _ _

/-- What is reported has no bearing on what is done. -/
theorem pullAll_report (fleet : Fleet) (r : Nat) (target : UnitRef) (others : List UnitRef)
    (report report' : MigrationReport) (keys : List String) :
    (fleet.pullAll r target others report keys).2 =
      (fleet.pullAll r target others report' keys).2 := by
  induction keys generalizing fleet report report' with
  | nil => rfl
  | cons key keys ih => exact ih (fleet.pull r target others key).2 _ _

theorem pullAll_append (fleet : Fleet) (r : Nat) (target : UnitRef) (others : List UnitRef)
    (report : MigrationReport) (keys keys' : List String) :
    (fleet.pullAll r target others report (keys ++ keys')).2 =
      ((fleet.pullAll r target others report keys).2.pullAll r target others report keys').2 := by
  induction keys generalizing fleet with
  | nil => rfl
  | cons key keys ih =>
    rw [List.cons_append, pullAll, pullAll_report _ _ _ _ _ report, ih, pullAll,
      pullAll_report _ _ _ _ (report.count _) report keys]

/-- What happens to one key does not depend on the copies of the others. -/
theorem copy_pull_congr (h : SameShape fleet fleet') (target : UnitRef) (others : List UnitRef)
    (hcopy : ∀ w, fleet'.copy w key = fleet.copy w key) (w : UnitRef) :
    (fleet'.pull r target others key).2.copy w key =
      (fleet.pull r target others key).2.copy w key := by
  rw [copy_pull, copy_pull, donor?_congr h hcopy, h.active]
  simp only [hcopy]

/-- To bring a key a second time is of no consequence. -/
theorem copy_pull_pull (fleet : Fleet) (r : Nat) (target : UnitRef) (others : List UnitRef)
    (key : String) (w : UnitRef) :
    ((fleet.pull r target others key).2.pull r target others key).2.copy w key =
      (fleet.pull r target others key).2.copy w key := by
  have hshape := sameShape_pull fleet r target others key
  by_cases hactive : fleet.pool.isActive target = true
  · cases hdonor : fleet.donor? r target others key with
    | none => rw [pull_of_donor?_eq_none hdonor, pull_of_donor?_eq_none hdonor]
    | some donor =>
      obtain ⟨source, stale⟩ := donor
      obtain ⟨-, -, hsource⟩ := donor?_spec hdonor
      have hholds : ((fleet.pull r target others key).2.copy target key).isSome := by
        simpa [copy_pull, hactive, hdonor] using hsource
      rw [pull_of_donor?_eq_none (donor?_of_holds (by rwa [hshape.active]) hholds)]
  · rw [copy_pull, hshape.active, if_neg fun h => hactive h.2]

theorem copy_pullAll (fleet : Fleet) (r : Nat) (target : UnitRef) (others : List UnitRef)
    (report : MigrationReport) (keys : List String) (w : UnitRef) (j : String) :
    (fleet.pullAll r target others report keys).2.copy w j =
      if j ∈ keys then (fleet.pull r target others j).2.copy w j else fleet.copy w j := by
  induction keys generalizing fleet report with
  | nil => simp [pullAll]
  | cons key keys ih =>
    have hother : ∀ {j}, j ≠ key →
        ∀ w, (fleet.pull r target others key).2.copy w j = fleet.copy w j := by
      intro j hj w
      rw [copy_pull, if_neg fun h => hj h.1]
    refine (ih (fleet.pull r target others key).2 _).trans ?_
    by_cases hj : j = key
    · subst hj
      rw [copy_pull_pull]
      simp
    · rw [copy_pull_congr (sameShape_pull fleet r target others key) _ _ (hother hj), hother hj]
      simp [hj]

/-- To bring keys onto a unit leaves a replica alone that holds its copy. -/
theorem copy_pullAll_of_mem_replicas (hs : fleet.ring.Sound) {w : UnitRef}
    (hw : w ∈ fleet.replicas key r) (hheld : (fleet.copy w key).isSome) (target : UnitRef)
    (others : List UnitRef) (report : MigrationReport) (keys : List String) :
    (fleet.pullAll r target others report keys).2.copy w key = fleet.copy w key := by
  rw [copy_pullAll]
  split
  · rw [copy_pull]
    split
    · cases hdonor : fleet.donor? r target others key with
      | none => rfl
      | some donor =>
        obtain ⟨source, stale⟩ := donor
        dsimp only
        split
        next hsame =>
          rw [donor?_of_holds (hsame ▸ isActive_of_mem_replicas hs hw) (hsame ▸ hheld)] at hdonor
          cases hdonor
        · split
          next hgiven =>
            obtain ⟨rfl, rfl⟩ := hgiven
            exact absurd hw (not_mem_replicas_of_stale hdonor)
          · rfl
    · rfl
  · rfl

theorem mem_keysOn {units : List UnitRef} {j : String} :
    j ∈ fleet.keysOn units ↔ ∃ unit ∈ units, (fleet.copy unit j).isSome := by
  have hfold : ∀ (units : List UnitRef) (keys : Std.ExtTreeSet String),
      j ∈ units.foldl (fun keys unit => keys.insertMany (fleet.get unit).keys) keys ↔
        j ∈ keys ∨ ∃ unit ∈ units, (fleet.copy unit j).isSome := by
    intro units
    induction units with
    | nil => simp
    | cons unit units ih =>
      intro keys
      have hkeys : j ∈ (fleet.get unit).keys ↔ (fleet.copy unit j).isSome := by
        simp [StorageUnit.keys, copy]
      rw [List.foldl_cons, ih, Std.ExtTreeSet.mem_insertMany_list, List.contains_iff_mem, hkeys]
      simp [or_assoc]
  simpa [keysOn] using hfold units ∅

theorem mem_storedKeys {j : String} :
    j ∈ fleet.storedKeys ↔ ∃ unit ∈ fleet.units, (fleet.copy unit j).isSome :=
  mem_keysOn

/-- The copies after a migration. -/
theorem copy_migrate (fleet : Fleet) (r : Nat) (target w : UnitRef) (j : String) :
    (fleet.migrate target r).2.copy w j =
      if fleet.pool.isActive target then
        match fleet.donor? r target (fleet.others target) j with
        | none => fleet.copy w j
        | some (source, stale) =>
          if w = target then fleet.copy source j
          else if stale ∧ w = source then none
          else fleet.copy w j
      else fleet.copy w j := by
  refine (copy_pullAll fleet r target _ _ _ w j).trans ?_
  rw [copy_pull]
  simp only [true_and]
  split
  · rfl
  next habsent =>
    split
    · cases hdonor : fleet.donor? r target (fleet.others target) j with
      | none => rfl
      | some donor =>
        obtain ⟨source, stale⟩ := donor
        obtain ⟨hmem, -, hsome⟩ := donor?_spec hdonor
        exact absurd (Std.ExtTreeSet.mem_toList.2 (mem_keysOn.2 ⟨_, hmem, hsome⟩)) habsent
    · rfl

/-- A migration onto a unit that is no replica of a key leaves the key alone. -/
theorem copy_migrate_of_not_mem (hs : fleet.ring.Sound) {target : UnitRef}
    (htarget : target ∈ fleet.units) (hnot : target ∉ fleet.replicas key r) (w : UnitRef) :
    (fleet.migrate target r).2.copy w key = fleet.copy w key := by
  rw [copy_migrate, donor?_of_not_mem hs htarget hnot]
  exact ite_self _

/-- A new replica takes over the copy of a stray holder, or else gets that of the first holder. -/
theorem copy_migrate_of_mem (hs : fleet.ring.Sound) {target : UnitRef}
    (hmem : target ∈ fleet.replicas key r) (hlacks : fleet.copy target key = none) (w : UnitRef) :
    (fleet.migrate target r).2.copy w key =
      match fleet.stray? r (fleet.others target) key with
      | some unit =>
        if w = target then fleet.copy unit key else if w = unit then none else fleet.copy w key
      | none =>
        if w = target then
          ((fleet.others target).filter fun unit => (fleet.get unit).containsKey key).head?.bind
            (fleet.copy · key)
        else fleet.copy w key := by
  rw [copy_migrate, if_pos (isActive_of_mem_replicas hs hmem), donor?_of_mem hmem hlacks]
  cases fleet.stray? r (fleet.others target) key with
  | some unit => simp
  | none =>
    cases ((fleet.others target).filter fun unit => (fleet.get unit).containsKey key).head? with
    | some unit => simp
    | none =>
      by_cases hw : w = target
      · simp [hw, hlacks]
      · simp [hw]

theorem mem_others (hs : fleet.ring.Sound) {target w : UnitRef} (htarget : target ∈ fleet.units) :
    w ∈ fleet.others target ↔ w ∈ fleet.units ∧ w ≠ target := by
  rw [others, List.mem_filter, bne_iff_ne]
  constructor
  · rintro ⟨hw, hid⟩
    exact ⟨hw, fun heq => hid (congrArg UnitRef.id heq)⟩
  · rintro ⟨hw, hne⟩
    exact ⟨hw, fun hid => hne (eq_of_id_eq hs hw htarget hid)⟩

/-- A stray holder is an active unit that holds the key and is no replica of it. -/
theorem stray?_spec (hs : fleet.ring.Sound) {target unit : UnitRef}
    (h : fleet.stray? r (fleet.others target) key = some unit) :
    unit ∈ fleet.units ∧ unit ≠ target ∧ fleet.pool.isActive unit = true ∧
      (fleet.copy unit key).isSome ∧ unit ∉ fleet.replicas key r := by
  obtain ⟨hother, hholds⟩ := List.mem_filter.1 (List.mem_of_find?_eq_some h)
  obtain ⟨hmember, hid⟩ := List.mem_filter.1 hother
  rw [containsKey_eq, Bool.and_eq_true] at hholds
  have hstray := List.find?_some h
  refine ⟨hmember, fun heq => ?_, hholds.1, hholds.2, fun hmem => ?_⟩
  · simp [heq] at hid
  · simp only [(contains_ids_iff hs hmember).2 hmem, Bool.not_true, Bool.false_eq_true] at hstray

/-- If there is no stray holder, all active holders but the new unit are replicas. -/
theorem mem_replicas_of_stray?_eq_none (hs : fleet.ring.Sound) {target unit : UnitRef}
    (h : fleet.stray? r (fleet.others target) key = none) (hunit : unit ∈ fleet.others target)
    (hactive : fleet.pool.isActive unit = true) (hheld : (fleet.copy unit key).isSome) :
    unit ∈ fleet.replicas key r := by
  have hmember := (List.mem_filter.1 hunit).1
  have hholds : (fleet.get unit).containsKey key = true := by
    rw [containsKey_eq, hactive, hheld]
    rfl
  have hnone := List.find?_eq_none.1 h unit (List.mem_filter.2 ⟨hunit, hholds⟩)
  exact (contains_ids_iff hs hmember).1 (by simpa using hnone)

/-! ## Migration onto a unit just admitted -/

namespace Admission

variable {unit w : UnitRef} (hs : fleet.ring.Sound) (h : Admission fleet fleet' unit)
include hs h

theorem mem_others : w ∈ fleet'.others unit ↔ w ∈ fleet.units := by
  rw [Fleet.mem_others (h.sound hs) (h.mem_units_self hs), h.mem_units hs]
  constructor
  · rintro ⟨hw, hne⟩
    exact hw.resolve_right hne
  · intro hw
    exact ⟨.inl hw, h.ne_of_mem_units hs hw⟩

/-- A stray holder has been there before. -/
theorem stray?_spec {stray : UnitRef}
    (hstray : fleet'.stray? r (fleet'.others unit) key = some stray) :
    stray ∈ fleet.units ∧ (fleet.copy stray key).isSome ∧ stray ∉ fleet'.replicas key r := by
  obtain ⟨hmember, hother, -, hheld, hgone⟩ := Fleet.stray?_spec (h.sound hs) hstray
  have hold := ((h.mem_units hs).1 hmember).resolve_right hother
  rw [h.copy_of_mem_units hs hold] at hheld
  exact ⟨hold, hheld, hgone⟩

/-- A new replica takes the copy of a stray holder away. -/
theorem copy_migrate_of_stray {stray : UnitRef} (hmem : unit ∈ fleet'.replicas key r)
    (hstray : fleet'.stray? r (fleet'.others unit) key = some stray) :
    (fleet'.migrate unit r).2.copy unit key = fleet.copy stray key ∧
      (fleet'.migrate unit r).2.copy stray key = none := by
  have hold := (h.stray?_spec hs hstray).1
  have hne := h.ne_of_mem_units hs hold
  simp only [copy_migrate_of_mem (h.sound hs) hmem (h.copy_self key), hstray, if_true, if_neg hne,
    h.copy_of_mem_units hs hold]
  exact ⟨trivial, trivial⟩

/-- The migration onto a new unit leaves all other members alone. -/
theorem copy_migrate_of_mem_units (hw : w ∈ fleet.units)
    (hstray : fleet'.stray? r (fleet'.others unit) key ≠ some w) :
    (fleet'.migrate unit r).2.copy w key = fleet.copy w key := by
  have hne := h.ne_of_mem_units hs hw
  have hcopy := h.copy_of_mem_units hs hw key
  by_cases hmem : unit ∈ fleet'.replicas key r
  · rw [copy_migrate_of_mem (h.sound hs) hmem (h.copy_self key)]
    split
    next stray hfound =>
      have hother : w ≠ stray := fun heq => hstray (by rw [hfound, heq])
      rw [if_neg hne, if_neg hother, hcopy]
    · rw [if_neg hne, hcopy]
  · rw [copy_migrate_of_not_mem (h.sound hs) (h.mem_units_self hs) hmem, hcopy]

/-- Without a stray holder a new replica gets the value on which the replicas of before agree. -/
theorem copy_migrate_of_no_stray {held : Option String} (hmore : OneMore fleet fleet' unit)
    (hmem : unit ∈ fleet'.replicas key r)
    (hstray : fleet'.stray? r (fleet'.others unit) key = none)
    (hagree : ∀ w ∈ fleet.replicas key r, fleet.copy w key = held)
    (hnone : fleet.replicas key r = [] → held = none) :
    (fleet'.migrate unit r).2.copy unit key = held := by
  have hs' := h.sound hs
  rw [copy_migrate_of_mem hs' hmem (h.copy_self key), hstray]
  dsimp only
  rw [if_pos rfl]
  cases hfirst : ((fleet'.others unit).filter
      fun unit => (fleet'.get unit).containsKey key).head? with
  | none =>
    rw [Option.bind_none]
    by_contra hheld
    obtain ⟨w, hw⟩ := List.exists_mem_of_ne_nil _ fun hnil => hheld (hnone hnil).symm
    have hmember := mem_units_of_mem_replicas hs hw
    refine List.filter_eq_nil_iff.1 (List.head?_eq_none_iff.1 hfirst) w
      ((h.mem_others hs).2 hmember) ?_
    rw [containsKey_eq, h.active, isActive_of_mem_replicas hs hw, h.copy_of_mem_units hs hmember,
      hagree w hw, Option.isSome_iff_ne_none.2 (Ne.symm hheld)]
    rfl
  | some w =>
    obtain ⟨hother, hholds⟩ := List.mem_filter.1 (List.mem_of_head? hfirst)
    have hmember := (h.mem_others hs).1 hother
    rw [containsKey_eq, Bool.and_eq_true] at hholds
    have hw := mem_replicas_of_stray?_eq_none hs' hstray hother hholds.1 hholds.2
    rw [Option.bind_some, h.copy_of_mem_units hs hmember,
      hagree w (hmore.mem_replicas_of_mem hw (h.ne_of_mem_units hs hmember))]

end Admission

end QuorumRing.Fleet
