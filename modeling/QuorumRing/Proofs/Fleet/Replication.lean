import QuorumRing.Proofs.Fleet.Inspection

/-!
# Fleets that hold a map

A fleet holds a map if every key is held by its replicas, each with its entry, and by nobody else
(`Fleet.Holds`). Reads, deletes and repairs then see the map, a verification finds nothing wrong,
and the stored entries are as many as the keys times the replicas of each.

A change of membership together with its movement of data leaves the fleet holding the same map.
When a unit joins, the replica that gives way for it is the only holder that is no replica any more,
so that the migration takes its copy and no other one. When a unit leaves, the replica that follows
is the only one that lacks the key.
-/

namespace QuorumRing.Fleet

variable {fleet fleet' : Fleet} {unit : UnitRef} {r : Nat} {key value : String} {entries : Contents}

theorem sum_map_ite {α : Type} (test : α → Bool) (l : List α) :
    (l.map fun a => if test a = true then 1 else 0).sum = l.countP test := by
  induction l with
  | nil => rfl
  | cons a l ih =>
    rw [List.map_cons, List.sum_cons, ih, List.countP_cons]
    omega

/-- Every key of a map is held by its replicas, each with its entry, and by nobody else. -/
structure Holds (fleet : Fleet) (r : Nat) (entries : Contents) : Prop where
  /-- The replicas of a key hold its entry, and the other members hold nothing. -/
  copy : ∀ unit ∈ fleet.units, ∀ key,
    fleet.copy unit key = if unit ∈ fleet.replicas key r then entries[key]? else none
  /-- A key that has an entry has a replica. -/
  replicas_ne_nil : ∀ key ∈ entries, fleet.replicas key r ≠ []

namespace Holds

theorem copy_of_mem_replicas (hs : fleet.ring.Sound) (h : fleet.Holds r entries)
    (hmem : unit ∈ fleet.replicas key r) : fleet.copy unit key = entries[key]? := by
  rw [h.copy unit (mem_units_of_mem_replicas hs hmem), if_pos hmem]

theorem entry_eq_none (h : fleet.Holds r entries) (hnil : fleet.replicas key r = []) :
    entries[key]? = none := by
  by_contra hentry
  refine h.replicas_ne_nil key ?_ hnil
  exact Std.ExtTreeMap.mem_iff_isSome_getElem?.2 (Option.isSome_iff_ne_none.2 hentry)

/-- The replicas agree on the entry of a key. -/
theorem findSome? (hs : fleet.ring.Sound) (h : fleet.Holds r entries) (key : String) :
    (fleet.replicas key r).findSome? (fleet.copy · key) = entries[key]? :=
  findSome?_eq_of_forall (fun _ hu => h.copy_of_mem_replicas hs hu) h.entry_eq_none

theorem any (hs : fleet.ring.Sound) (h : fleet.Holds r entries) (key : String) :
    ((fleet.replicas key r).any fun unit => (fleet.copy unit key).isSome) =
      entries.contains key := by
  rw [Bool.eq_iff_iff, List.any_eq_true]
  constructor
  · rintro ⟨u, hu, hheld⟩
    rw [h.copy_of_mem_replicas hs hu] at hheld
    exact Std.ExtTreeMap.mem_iff_isSome_getElem?.2 hheld
  · intro hkey
    obtain ⟨u, hu⟩ := List.exists_mem_of_ne_nil _ (h.replicas_ne_nil key hkey)
    refine ⟨u, hu, ?_⟩
    rw [h.copy_of_mem_replicas hs hu]
    exact Std.ExtTreeMap.mem_iff_isSome_getElem?.1 hkey

/-! ## Work on the data -/

theorem congr (h : fleet.Holds r entries) (hshape : SameShape fleet fleet')
    (hcopy : ∀ w j, fleet'.copy w j = fleet.copy w j) : fleet'.Holds r entries where
  copy w hw j := by
    rw [hshape.units] at hw
    rw [hcopy, hshape.replicas, h.copy w hw]
  replicas_ne_nil j hj := by
    rw [hshape.replicas]
    exact h.replicas_ne_nil j hj

theorem insert (h : fleet.Holds r entries) (hshape : SameShape fleet fleet')
    (hne : fleet.replicas key r ≠ [])
    (hcopy : ∀ w j, fleet'.copy w j =
      if w ∈ fleet.replicas key r ∧ j = key then some value else fleet.copy w j) :
    fleet'.Holds r (entries.insert key value) where
  copy w hw j := by
    rw [hshape.units] at hw
    rw [hcopy, hshape.replicas, h.copy w hw, Std.ExtTreeMap.getElem?_insert]
    by_cases hj : j = key
    · subst hj
      by_cases hmem : w ∈ fleet.replicas j r <;> simp [hmem]
    · simp [hj, Ne.symm hj]
  replicas_ne_nil j hj := by
    rw [hshape.replicas]
    rcases Std.ExtTreeMap.mem_insert.1 hj with hj | hj
    · rwa [← Std.LawfulEqOrd.eq_of_compare hj]
    · exact h.replicas_ne_nil j hj

theorem erase (h : fleet.Holds r entries) (hshape : SameShape fleet fleet')
    (hcopy : ∀ w j, fleet'.copy w j =
      if w ∈ fleet.replicas key r ∧ j = key then none else fleet.copy w j) :
    fleet'.Holds r (entries.erase key) where
  copy w hw j := by
    rw [hshape.units] at hw
    rw [hcopy, hshape.replicas, h.copy w hw, Std.ExtTreeMap.getElem?_erase]
    by_cases hj : j = key
    · subst hj
      by_cases hmem : w ∈ fleet.replicas j r <;> simp [hmem]
    · simp [hj, Ne.symm hj]
  replicas_ne_nil j hj := by
    rw [hshape.replicas]
    exact h.replicas_ne_nil j (Std.ExtTreeMap.mem_erase.1 hj).2

theorem repair (hs : fleet.ring.Sound) (h : fleet.Holds r entries) (key : String) :
    (fleet.repair key r).2.Holds r entries := by
  refine h.congr (sameShape_repair fleet key r) fun w j => ?_
  rw [copy_repair hs, h.findSome? hs]
  split
  next hmem =>
    obtain ⟨hmem, rfl⟩ := hmem
    exact (h.copy_of_mem_replicas hs hmem).symm
  · rfl

/-! ## Admission -/

section Admit

variable (hs : fleet.ring.Sound) (h : fleet.Holds r entries)
  (hadmission : Admission fleet fleet' unit) (hmore : OneMore fleet fleet' unit)
include hs h hadmission

/-- The only stray holder is the replica that gave way. -/
theorem stray?_spec {stray : UnitRef}
    (hstray : fleet'.stray? r (fleet'.others unit) key = some stray) :
    stray ∈ fleet.replicas key r ∧ stray ∉ fleet'.replicas key r := by
  obtain ⟨hold, hheld, hgone⟩ := hadmission.stray?_spec hs hstray
  refine ⟨?_, hgone⟩
  by_contra hnot
  rw [h.copy stray hold, if_neg hnot] at hheld
  simp at hheld

include hmore

/-- A new replica gets the entry of a key, from the replica that gave way or from another one. -/
theorem copy_migrate_newcomer (hmem : unit ∈ fleet'.replicas key r) :
    (fleet'.migrate unit r).2.copy unit key = entries[key]? := by
  cases hstray : fleet'.stray? r (fleet'.others unit) key with
  | none =>
    exact hadmission.copy_migrate_of_no_stray hs hmore hmem hstray
      (fun w hw => h.copy_of_mem_replicas hs hw) h.entry_eq_none
  | some stray =>
    obtain ⟨hreplica, -⟩ := h.stray?_spec hs hadmission hstray
    rw [(hadmission.copy_migrate_of_stray hs hmem hstray).1, h.copy_of_mem_replicas hs hreplica]

/-- The replica that gave way has been found, unless there was nothing to be found. -/
theorem stray?_of_displaced {w : UnitRef} (hbefore : w ∈ fleet.replicas key r)
    (hafter : w ∉ fleet'.replicas key r) (hentry : entries[key]? ≠ none) :
    fleet'.stray? r (fleet'.others unit) key = some w := by
  have hw := mem_units_of_mem_replicas hs hbefore
  cases hfound : fleet'.stray? r (fleet'.others unit) key with
  | none =>
    have hheld : (fleet'.copy w key).isSome := by
      rw [hadmission.copy_of_mem_units hs hw, h.copy_of_mem_replicas hs hbefore]
      exact Option.isSome_iff_ne_none.2 hentry
    have hactive : fleet'.pool.isActive w = true := by
      rw [hadmission.active, isActive_of_mem_replicas hs hbefore, Bool.true_or]
    exact absurd (mem_replicas_of_stray?_eq_none (hadmission.sound hs) hfound
      ((hadmission.mem_others hs).2 hw) hactive hheld) hafter
  | some stray =>
    obtain ⟨hreplica, hgone⟩ := h.stray?_spec hs hadmission hfound
    rw [hmore.eq_of_displaced hreplica hgone hbefore hafter]

/-- The other replicas keep the entry of a key, and who is no replica any more loses it. -/
theorem copy_migrate_member {w : UnitRef} (hw : w ∈ fleet.units)
    (hmem : unit ∈ fleet'.replicas key r) :
    (fleet'.migrate unit r).2.copy w key =
      if w ∈ fleet'.replicas key r then entries[key]? else none := by
  have hne := hadmission.ne_of_mem_units hs hw
  by_cases hstray : fleet'.stray? r (fleet'.others unit) key = some w
  · obtain ⟨-, hgone⟩ := h.stray?_spec hs hadmission hstray
    rw [(hadmission.copy_migrate_of_stray hs hmem hstray).2, if_neg hgone]
  · rw [hadmission.copy_migrate_of_mem_units hs hw hstray, h.copy w hw]
    by_cases hafter : w ∈ fleet'.replicas key r
    · rw [if_pos hafter, if_pos (hmore.mem_replicas_of_mem hafter hne)]
    · rw [if_neg hafter]
      split
      next hbefore =>
        by_contra hentry
        exact hstray (h.stray?_of_displaced hs hadmission hmore hbefore hafter hentry)
      · rfl

/-- A unit that is admitted to vacant positions and pulls its keys takes its place among the
replicas. -/
theorem migrate : (fleet'.migrate unit r).2.Holds r entries := by
  have hshape := sameShape_migrate fleet' unit r
  constructor
  · intro w hw j
    rw [hshape.units, hadmission.mem_units hs] at hw
    rw [hshape.replicas]
    by_cases hmem : unit ∈ fleet'.replicas j r
    · rcases hw with hw | rfl
      · exact h.copy_migrate_member hs hadmission hmore hw hmem
      · rw [if_pos hmem, h.copy_migrate_newcomer hs hadmission hmore hmem]
    · rw [copy_migrate_of_not_mem (hadmission.sound hs) (hadmission.mem_units_self hs) hmem]
      rcases hw with hw | rfl
      · rw [hadmission.copy_of_mem_units hs hw, h.copy w hw, hmore.replicas_of_not_mem hmem]
      · rw [hadmission.copy_self, if_neg hmem]
  · intro j hj
    rw [hshape.replicas]
    by_cases hmem : unit ∈ fleet'.replicas j r
    · exact List.ne_nil_of_mem hmem
    · rw [← hmore.replicas_of_not_mem hmem]
      exact h.replicas_ne_nil j hj

end Admit

/-! ## Removal -/

/-- A unit that is removed, and whose entries are stored again, gives its place among the replicas
to the ones behind it. -/
theorem depart (hs : fleet.ring.Sound) (h : fleet.Holds r entries)
    (hdeparture : Departure fleet fleet' unit) {final : Fleet} (hshape : SameShape fleet' final)
    (hne : ∀ key, fleet'.replicas key r ≠ [])
    (hcopy : ∀ w j, final.copy w j = if w ∈ fleet'.replicas j r then
      (fleet.copy unit j).or (fleet'.copy w j) else fleet'.copy w j) : final.Holds r entries := by
  refine ⟨fun w hw j => ?_, fun j _ => by rw [hshape.replicas]; exact hne j⟩
  rw [hshape.units] at hw
  obtain ⟨hmember, hother⟩ := (hdeparture.mem_units hs).1 hw
  have hmore := hdeparture.oneMore hs
  have hunit := h.copy unit ((mem_units hs).2 hdeparture.registered) j
  rw [hcopy, hshape.replicas, hunit, hdeparture.copy, h.copy w hmember]
  by_cases hplace : unit ∈ fleet.replicas j r
  · rw [if_pos hplace]
    by_cases hmem : w ∈ fleet'.replicas j r
    · rw [if_pos hmem, if_pos hmem]
      cases entries[j]? with
      | none => simp
      | some value => rfl
    · have hold : w ∉ fleet.replicas j r := fun hw =>
        hmem (hmore.mem_replicas_of_mem hw hother)
      rw [if_neg hmem, if_neg hmem, if_neg hold]
  · rw [if_neg hplace, hmore.replicas_of_not_mem hplace, Option.none_or, ite_self]

/-! ## What a verification and a status tell -/

theorem mem_storedKeys (hs : fleet.ring.Sound) (h : fleet.Holds r entries) :
    key ∈ fleet.storedKeys ↔ key ∈ entries := by
  rw [Fleet.mem_storedKeys, Std.ExtTreeMap.mem_iff_isSome_getElem?]
  constructor
  · rintro ⟨u, hu, hheld⟩
    rw [h.copy u hu] at hheld
    split at hheld
    · exact hheld
    · simp at hheld
  · intro hentry
    have hkey := Std.ExtTreeMap.mem_iff_isSome_getElem?.2 hentry
    obtain ⟨u, hu⟩ := List.exists_mem_of_ne_nil _ (h.replicas_ne_nil key hkey)
    refine ⟨u, mem_units_of_mem_replicas hs hu, ?_⟩
    rwa [h.copy_of_mem_replicas hs hu]

theorem isClean_verify (hs : fleet.ring.Sound) (h : fleet.Holds r entries)
    (hc : fleet.ring.isConsistent = true) : (fleet.verify r).1.isClean = true := by
  refine (isClean_verify_iff hs r).2 ⟨hc, fun j hj => ?_⟩
  have hentry := (h.mem_storedKeys hs).1 hj
  obtain ⟨value, hvalue⟩ :=
    Option.isSome_iff_exists.1 (Std.ExtTreeMap.mem_iff_isSome_getElem?.1 hentry)
  refine ⟨h.replicas_ne_nil j hentry, value, fun u hu => ?_⟩
  rw [h.copy_of_mem_replicas hs hu, hvalue]

theorem size_storedKeys (hs : fleet.ring.Sound) (h : fleet.Holds r entries) :
    fleet.storedKeys.size = entries.size := by
  have hperm : fleet.storedKeys.toList.Perm entries.keys := by
    refine (List.perm_ext_iff_of_nodup ?_ ?_).2 fun j => ?_
    · exact Std.ExtTreeSet.distinct_toList.imp Std.ReflCmp.ne_of_cmp_ne_eq
    · exact Std.ExtTreeMap.nodup_keys
    · rw [Std.ExtTreeSet.mem_toList, h.mem_storedKeys hs, Std.ExtTreeMap.mem_keys]
  rw [← Std.ExtTreeSet.length_toList, hperm.length_eq, Std.ExtTreeMap.length_keys]

theorem size_eq_countP (h : fleet.Holds r entries) (hu : unit ∈ fleet.units) :
    (fleet.get unit).size = entries.keys.countP fun j => unit ∈ fleet.replicas j r := by
  have hcontents : (fleet.get unit).contents =
      entries.filter fun j _ => decide (unit ∈ fleet.replicas j r) := by
    refine Std.ExtTreeMap.ext_getElem? fun j => ?_
    rw [Std.ExtTreeMap.getElem?_filter']
    refine (h.copy unit hu j).trans ?_
    by_cases hmem : unit ∈ fleet.replicas j r
    · cases entries[j]? <;> simp [hmem, Option.filter_some]
    · simp [hmem]
  rw [StorageUnit.size, hcontents, ← Std.ExtTreeMap.length_toList, Std.ExtTreeMap.toList_filter,
    ← Std.ExtTreeMap.map_fst_toList_eq_keys, List.countP_map, List.countP_eq_length_filter]
  rfl

/-- The stored entries are as many as the replicas of all keys together. -/
theorem sum_sizes (hs : fleet.ring.Sound) (h : fleet.Holds r entries) {n : Nat}
    (hn : ∀ key, (fleet.replicas key r).length = n) :
    (fleet.units.map fun unit => (fleet.get unit).size).sum = entries.size * n := by
  -- the members among the replicas of a key are all of them
  have hcount : ∀ j, fleet.units.countP (· ∈ fleet.replicas j r) = n := by
    intro j
    have hperm : (fleet.units.filter (· ∈ fleet.replicas j r)).Perm (fleet.replicas j r) := by
      refine (List.perm_ext_iff_of_nodup ?_ ?_).2 fun u => ?_
      · exact Ring.nodup_of_pairwise ((units_pairwise hs).filter _)
      · exact nodup_replicas hs j r
      · rw [List.mem_filter, decide_eq_true_iff]
        exact ⟨And.right, fun hu => ⟨mem_units_of_mem_replicas hs hu, hu⟩⟩
    rw [List.countP_eq_length_filter, hperm.length_eq, hn]
  have hpairs : ∀ keys : List String,
      (fleet.units.map fun u => keys.countP fun j => u ∈ fleet.replicas j r).sum =
        keys.length * n := by
    intro keys
    induction keys with
    | nil => simp
    | cons j keys ih =>
      have hone := hcount j
      rw [← sum_map_ite] at hone
      simp only [List.countP_cons, List.sum_map_add, ih, hone, List.length_cons, Nat.add_mul,
        Nat.one_mul]
  rw [List.map_congr_left fun u hu => h.size_eq_countP hu, hpairs, Std.ExtTreeMap.length_keys]

end Holds

end QuorumRing.Fleet
