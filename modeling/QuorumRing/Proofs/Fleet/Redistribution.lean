import QuorumRing.Proofs.Fleet.Conservation

/-!
# The order of a redistribution

A redistribution stores the entries of a unit that has left on the replicas of their keys, one after
the other. The entries come from a map, and nothing is said about their order. It does not matter: two
entries have different keys, so that the writes for one commute with the writes for the other, be it
on the same unit or on two (`Fleet.attempt_put_comm`), and no write moves a replica set. So a
redistribution ends in the same state and with the same report whatever the order
(`Fleet.redistribute_perm`).
-/

namespace QuorumRing

/-- It does not matter which of two keys is inserted first. -/
theorem insert_comm {α β : Type} [Ord α] [Std.TransOrd α] [Std.LawfulEqOrd α]
    (map : Std.ExtTreeMap α β) {a a' : α} (h : a ≠ a') (b b' : β) :
    (map.insert a b).insert a' b' = (map.insert a' b').insert a b := by
  refine Std.ExtTreeMap.ext_getElem? fun j => ?_
  simp only [Std.ExtTreeMap.getElem?_insert]
  by_cases hj : compare a j = .eq
  · have hj' : compare a' j ≠ .eq := fun h' =>
      h ((Std.LawfulEqOrd.eq_of_compare hj).trans (Std.LawfulEqOrd.eq_of_compare h').symm)
    rw [if_neg hj', if_pos hj, if_pos hj]
  · rw [if_neg hj, if_neg hj]

theorem Pool.set_set (pool : Pool) (ref : UnitRef) (unit unit' : StorageUnit) :
    (pool.set ref unit).set ref unit' = pool.set ref unit' := by
  have hunits : (pool.units.insert ref unit).insert ref unit' = pool.units.insert ref unit' := by
    refine Std.ExtTreeMap.ext_getElem? fun w => ?_
    simp only [Std.ExtTreeMap.getElem?_insert]
    split
    · rfl
    · rfl
  rw [set, set, set, hunits]

theorem Pool.set_comm (pool : Pool) {ref ref' : UnitRef} (h : ref ≠ ref')
    (unit unit' : StorageUnit) :
    (pool.set ref unit).set ref' unit' = (pool.set ref' unit').set ref unit := by
  rw [set, set, set, set, insert_comm pool.units h]

namespace Fleet

variable {fleet fleet' : Fleet} {key key' : String} {r : Nat}

/-! ## Writes for different keys -/

theorem attempt_put_of_active {unit : UnitRef} (h : fleet.pool.isActive unit = true)
    (key value : String) : (fleet.attempt unit (·.put key value)).2 =
      { fleet with pool := fleet.pool.set unit { fleet.get unit with
          contents := (fleet.get unit).contents.insert key value
          operations := (fleet.get unit).operations + 1 } } :=
  congrArg Prod.snd
    (attempt_of_active (fun contents => (contents[key]?, contents.insert key value)) h)

theorem attempt_put_of_inactive {unit : UnitRef} (h : fleet.pool.isActive unit = false)
    (key value : String) : (fleet.attempt unit (·.put key value)).2 = fleet :=
  congrArg Prod.snd (attempt_of_inactive _ h)

/-- It does not matter which of two keys is written first, on the same unit or on two. -/
theorem attempt_put_comm (fleet : Fleet) (hkeys : key ≠ key') (unit unit' : UnitRef)
    (value value' : String) :
    ((fleet.attempt unit (·.put key value)).2.attempt unit' (·.put key' value')).2 =
      ((fleet.attempt unit' (·.put key' value')).2.attempt unit (·.put key value)).2 := by
  have hshape := congrFun (sameShape_attempt_put fleet unit key value).active unit'
  have hshape' := congrFun (sameShape_attempt_put fleet unit' key' value').active unit
  cases hunit : fleet.pool.isActive unit with
  | false =>
    rw [attempt_put_of_inactive hunit, attempt_put_of_inactive (hshape'.trans hunit)]
  | true =>
    cases hunit' : fleet.pool.isActive unit' with
    | false =>
      rw [attempt_put_of_inactive hunit', attempt_put_of_inactive (hshape.trans hunit')]
    | true =>
      rw [attempt_put_of_active (hshape.trans hunit'), attempt_put_of_active (hshape'.trans hunit),
        attempt_put_of_active hunit, attempt_put_of_active hunit']
      by_cases hsame : unit = unit'
      · subst hsame
        simp only [get, Pool.get_set_self, Pool.set_set, insert_comm _ hkeys]
      · simp only [get, Pool.get_set_of_ne _ hsame, Pool.get_set_of_ne _ (Ne.symm hsame),
          Pool.set_comm _ hsame]

theorem attempt_storeOn_comm (fleet : Fleet) (hkeys : key ≠ key') (unit : UnitRef)
    (value value' : String) (units : List UnitRef) :
    ((fleet.storeOn key value units).2.attempt unit (·.put key' value')).2 =
      ((fleet.attempt unit (·.put key' value')).2.storeOn key value units).2 := by
  induction units generalizing fleet with
  | nil => rfl
  | cons first units ih =>
    have hcomm := attempt_put_comm fleet hkeys first unit value value'
    refine (ih (fleet.attempt first (·.put key value)).2).trans ?_
    rw [hcomm]
    rfl

theorem storeOn_comm (fleet : Fleet) (hkeys : key ≠ key') (value value' : String)
    (units units' : List UnitRef) :
    ((fleet.storeOn key value units).2.storeOn key' value' units').2 =
      ((fleet.storeOn key' value' units').2.storeOn key value units).2 := by
  induction units' generalizing fleet with
  | nil => rfl
  | cons unit units' ih =>
    have hfirst := attempt_storeOn_comm fleet hkeys unit value value' units
    refine Eq.trans ?_ (ih (fleet.attempt unit (·.put key' value')).2)
    rw [← hfirst]
    rfl

/-! ## What a redistribution reports -/

/-- An entry is stored if one of the units is active. -/
theorem storeOn_fst (fleet : Fleet) (key value : String) (units : List UnitRef) :
    (fleet.storeOn key value units).1 = units.any fleet.pool.isActive := by
  induction units generalizing fleet with
  | nil => rfl
  | cons unit units ih =>
    have hrest := ih (fleet.attempt unit (·.put key value)).2
    rw [(sameShape_attempt_put fleet unit key value).active] at hrest
    rw [List.any_cons, ← attempt_put_isOk fleet unit key value, ← hrest]
    rfl

theorem storeOn_replicas_fst (hs : fleet.ring.Sound) (key value : String) (r : Nat) :
    (fleet.storeOn key value (fleet.replicas key r)).1 = !(fleet.replicas key r).isEmpty := by
  rw [storeOn_fst]
  cases hreplicas : fleet.replicas key r with
  | nil => rfl
  | cons unit units =>
    have hactive := isActive_of_mem_replicas hs (hreplicas ▸ List.mem_cons_self)
    rw [List.any_cons, hactive]
    rfl

/-- Every entry counts as redistributed or as failed, according to whether its key has a replica. -/
theorem redistribute_fst (hs : fleet.ring.Sound) (r : Nat) (entries : List (String × String)) :
    (fleet.redistribute r entries).1 =
      { redistributed := entries.countP fun entry => !(fleet.replicas entry.1 r).isEmpty
        failed := entries.countP fun entry => (fleet.replicas entry.1 r).isEmpty } := by
  induction entries generalizing fleet with
  | nil => rfl
  | cons entry entries ih =>
    obtain ⟨key, value⟩ := entry
    have hshape := sameShape_storeOn fleet key value (fleet.replicas key r)
    have hrest := ih (hshape.ring ▸ hs)
    simp only [hshape.replicas] at hrest
    rw [List.countP_cons, List.countP_cons]
    simp only [redistribute, storeOn_replicas_fst hs, hrest]
    cases (fleet.replicas key r).isEmpty <;> rfl

/-! ## The order of the entries -/

/-- The order of the entries of a map does not matter. -/
theorem redistribute_perm (hs : fleet.ring.Sound) (r : Nat) {entries entries' : List (String × String)}
    (h : entries.Perm entries') (hkeys : entries.Pairwise fun a b => a.1 ≠ b.1) :
    fleet.redistribute r entries = fleet.redistribute r entries' := by
  refine Prod.ext ?_ ?_
  · rw [redistribute_fst hs, redistribute_fst hs, h.countP_eq, h.countP_eq]
  · clear hs
    induction h generalizing fleet with
    | nil => rfl
    | cons entry h ih =>
      rw [redistribute_cons, redistribute_cons]
      exact ih (List.pairwise_cons.1 hkeys).2
    | swap entry entry' entries =>
      obtain ⟨key, value⟩ := entry
      obtain ⟨key', value'⟩ := entry'
      have hne : key' ≠ key := (List.pairwise_cons.1 hkeys).1 (key, value) List.mem_cons_self
      -- the replica sets are found where they were
      have hshape := sameShape_storeOn fleet key value (fleet.replicas key r)
      have hshape' := sameShape_storeOn fleet key' value' (fleet.replicas key' r)
      simp only [redistribute_cons, hshape.replicas, hshape'.replicas]
      rw [storeOn_comm fleet hne]
    | trans h _ ih ih' =>
      have hkeys' := (h.pairwise_iff fun {a b} hne => Ne.symm hne).1 hkeys
      exact (ih hkeys).trans (ih' hkeys')

/-- What a complete redistribution of a map has done to a fleet, and what it reports. -/
structure Redistributed (fleet : Fleet) (r : Nat) (entries : Contents)
    (report : RedistributionReport) (after : Fleet) : Prop where
  shape : SameShape fleet after
  stores : ∀ key value, entries[key]? = some value → ∀ unit ∈ fleet.replicas key r,
    after.copy unit key = some value
  spares : ∀ key unit, key ∉ entries ∨ unit ∉ fleet.replicas key r →
    after.copy unit key = fleet.copy unit key
  redistributed : report.redistributed = {key | key ∈ entries ∧ fleet.replicas key r ≠ []}.ncard
  total : report.redistributed + report.failed = entries.size

theorem redistributed_redistribute (hs : fleet.ring.Sound) (r : Nat) (entries : Contents) :
    Redistributed fleet r entries (fleet.redistribute r entries.toList).1
      (fleet.redistribute r entries.toList).2 := by
  constructor
  case shape => exact sameShape_redistribute fleet r entries.toList
  case stores =>
    intro key value hvalue unit hunit
    rw [copy_redistribute_contents hs, if_pos hunit, hvalue, Option.some_or]
  case spares =>
    intro key unit hspared
    rw [copy_redistribute_contents hs]
    rcases hspared with habsent | hunit
    · rw [Std.ExtTreeMap.getElem?_eq_none habsent, Option.none_or, ite_self]
    · rw [if_neg hunit]
  case redistributed =>
    have hcount : (fleet.redistribute r entries.toList).1.redistributed =
        entries.keys.countP fun key => !(fleet.replicas key r).isEmpty := by
      rw [redistribute_fst hs, ← Std.ExtTreeMap.map_fst_toList_eq_keys, List.countP_map]
      rfl
    rw [hcount, List.countP_eq_length_filter]
    refine (ncard_eq_length (Std.ExtTreeMap.nodup_keys.filter _) fun key => ?_).symm
    show key ∈ entries ∧ fleet.replicas key r ≠ [] ↔ _
    simp [Std.ExtTreeMap.mem_keys]
  case total =>
    rw [redistribute_fst hs, ← Std.ExtTreeMap.length_toList]
    have hsplit := List.length_eq_countP_add_countP (l := entries.toList)
      fun entry : String × String => (fleet.replicas entry.1 r).isEmpty
    simp only [Bool.not_eq_true, Bool.decide_eq_false] at hsplit
    rw [hsplit, Nat.add_comm]

/-- After every history of a ring, with any units alive and any contents, a redistribution stores
every entry on the replicas of its key, touches nothing else and counts the entries. It ends in the
same state and with the same report whatever the order in which the map is read. -/
theorem redistribute_exact (virtualNodes : Nat) (changes : List Ring.Change) (pool : Pool) (r : Nat)
    (entries : Contents) (order order' : List (String × String))
    (horder : order.Perm entries.toList) (horder' : order'.Perm entries.toList) :
    let fleet : Fleet := { ring := Ring.ofHistory virtualNodes changes, pool }
    Redistributed fleet r entries (fleet.redistribute r order).1 (fleet.redistribute r order).2 ∧
      fleet.redistribute r order' = fleet.redistribute r order := by
  intro fleet
  have hs : fleet.ring.Sound := Ring.sound_ofHistory virtualNodes changes
  have hdistinct : entries.toList.Pairwise fun a b => a.1 ≠ b.1 :=
    entries.distinct_keys_toList.imp Std.ReflCmp.ne_of_cmp_ne_eq
  have horder := redistribute_perm hs r horder.symm hdistinct
  have horder' := redistribute_perm hs r horder'.symm hdistinct
  rw [← horder, ← horder']
  exact ⟨redistributed_redistribute hs r entries, rfl⟩

/-- One unit is inactive, and one of the two that stay holds an older value. -/
theorem redistribute_exact_reversed :
    let changes := [.add ⟨"a", 0⟩, .add ⟨"b", 1⟩, .add ⟨"c", 2⟩]
    let unit := fun id entries active =>
      ({ id, host := "localhost", port := 8000, contents := .ofList entries, active } : StorageUnit)
    let pool := (({} : Pool).set ⟨"a", 0⟩ (unit "a" [] false)
      |>.set ⟨"b", 1⟩ (unit "b" [("x", "old"), ("y", "old")] true)
      |>.set ⟨"c", 2⟩ (unit "c" [] true))
    let fleet : Fleet := { ring := Ring.ofHistory 1 changes, pool }
    let after := fleet.redistribute 2 [("x", "new"), ("k", "new")]
    after.1 = { redistributed := 2 } ∧ after.2.copy ⟨"b", 1⟩ "x" = some "new" ∧
      after.2.copy ⟨"b", 1⟩ "y" = some "old" ∧
      fleet.redistribute 2 [("k", "new"), ("x", "new")] = after := by
  intro changes unit pool fleet after
  let entries : Contents := .ofList [("k", "new"), ("x", "new")]
  have h : [("x", "new"), ("k", "new")].Perm entries.toList ∧
      [("k", "new"), ("x", "new")].Perm entries.toList ∧ entries["x"]? = some "new" ∧
      "y" ∉ entries ∧ ⟨"b", 1⟩ ∈ fleet.replicas "x" 2 ∧
      fleet.copy ⟨"b", 1⟩ "y" = some "old" ∧ after.1 = { redistributed := 2 } := by
    decide +kernel
  obtain ⟨horder, horder', hentry, habsent, hreplica, hold, hreport⟩ := h
  have hmain := redistribute_exact 1 changes pool 2 entries _ _ horder horder'
  have hdone : Redistributed fleet 2 entries after.1 after.2 := hmain.1
  refine ⟨hreport, hdone.stores "x" "new" hentry _ hreplica, ?_, hmain.2⟩
  rw [hdone.spares "y" _ (Or.inl habsent), hold]

end Fleet

end QuorumRing
