import QuorumRing.Proofs.Fleet.Copies

/-!
# Members and replicas of a fleet

The active units in the order of closeness to a key form its ranking (`Fleet.ranking`), of which the
replicas are the first ones. A unit that is switched off and leaves the ring leaves all rankings,
and a unit that is admitted to vacant positions enters them; nobody else moves. The copies of the
others stay where they are.
-/

namespace QuorumRing.Fleet

variable {fleet fleet' : Fleet} {unit : UnitRef} {id key : String} {r : Nat}

/-! ## Registered units -/

theorem mem_units (hs : fleet.ring.Sound) :
    unit ∈ fleet.units ↔ fleet.ring.get? unit.id = some unit :=
  Ring.mem_units hs

theorem units_pairwise (hs : fleet.ring.Sound) :
    fleet.units.Pairwise fun u v => u.id ≠ v.id :=
  Ring.units_pairwise hs

theorem eq_of_id_eq (hs : fleet.ring.Sound) {u v : UnitRef} (hu : u ∈ fleet.units)
    (hv : v ∈ fleet.units) (hid : u.id = v.id) : u = v := by
  rw [mem_units hs] at hu hv
  rw [hid, hv] at hu
  exact (Option.some.inj hu).symm

theorem mem_activeUnits : unit ∈ fleet.activeUnits ↔
    unit ∈ fleet.units ∧ fleet.pool.isActive unit = true := by
  rw [activeUnits, List.mem_filter]

/-! ## Rankings -/

/-- The active units that own a position, closest to the key first. -/
def ranking (fleet : Fleet) (key : String) : List UnitRef :=
  (fleet.ring.order key).filter fleet.pool.isActive

theorem replicas_eq (hs : fleet.ring.Sound) (key : String) (r : Nat) :
    fleet.replicas key r = (fleet.ranking key).take r :=
  Ring.replicaSet_eq hs _ key r

theorem ranking_pairwise (fleet : Fleet) (key : String) :
    (fleet.ranking key).Pairwise fun u v => u.id ≠ v.id :=
  (Ring.order_pairwise _ key).filter _

theorem registered_of_mem_ranking (hs : fleet.ring.Sound) (h : unit ∈ fleet.ranking key) :
    fleet.ring.get? unit.id = some unit :=
  Ring.get?_of_mem_order hs (List.mem_filter.1 h).1

theorem mem_activeUnits_of_mem_ranking (hs : fleet.ring.Sound) (h : unit ∈ fleet.ranking key) :
    unit ∈ fleet.activeUnits :=
  mem_activeUnits.2 ⟨(mem_units hs).2 (registered_of_mem_ranking hs h), (List.mem_filter.1 h).2⟩

theorem mem_activeUnits_of_mem_replicas (hs : fleet.ring.Sound) (h : unit ∈ fleet.replicas key r) :
    unit ∈ fleet.activeUnits := by
  rw [replicas_eq hs] at h
  exact mem_activeUnits_of_mem_ranking hs (List.mem_of_mem_take h)

theorem isActive_of_mem_replicas (hs : fleet.ring.Sound) (h : unit ∈ fleet.replicas key r) :
    fleet.pool.isActive unit = true :=
  (mem_activeUnits.1 (mem_activeUnits_of_mem_replicas hs h)).2

theorem mem_units_of_mem_replicas (hs : fleet.ring.Sound) (h : unit ∈ fleet.replicas key r) :
    unit ∈ fleet.units :=
  (mem_activeUnits.1 (mem_activeUnits_of_mem_replicas hs h)).1

theorem replicas_pairwise (hs : fleet.ring.Sound) (key : String) (r : Nat) :
    (fleet.replicas key r).Pairwise fun u v => u.id ≠ v.id := by
  rw [replicas_eq hs]
  exact (ranking_pairwise fleet key).sublist (List.take_sublist r _)

theorem nodup_replicas (hs : fleet.ring.Sound) (key : String) (r : Nat) :
    (fleet.replicas key r).Nodup :=
  Ring.nodup_of_pairwise (replicas_pairwise hs key r)

/-- Among members the replicas can be told by their ids. -/
theorem contains_ids_iff (hs : fleet.ring.Sound) (hu : unit ∈ fleet.units) :
    ((fleet.replicas key r).map (·.id)).contains unit.id = true ↔ unit ∈ fleet.replicas key r := by
  rw [List.contains_iff_mem, List.mem_map]
  constructor
  · rintro ⟨w, hw, hid⟩
    rwa [← eq_of_id_eq hs (mem_units_of_mem_replicas hs hw) hu hid]
  · exact fun hmem => ⟨unit, hmem, rfl⟩

/-- A key has as many replicas as it should have, or else all active units are its replicas. -/
theorem length_replicas (hs : fleet.ring.Sound) (hu : fleet.ring.Undisputed)
    (hv : 0 < fleet.ring.virtualNodes) (key : String) (r : Nat) :
    (fleet.replicas key r).length = min r fleet.activeUnits.length :=
  Ring.length_replicaSet hs hu hv _ key r

/-- As long as a unit is active there is a replica. -/
theorem replicas_ne_nil (hs : fleet.ring.Sound) (hu : fleet.ring.Undisputed)
    (hv : 0 < fleet.ring.virtualNodes) (hr : 0 < r) (ha : fleet.activeUnits ≠ []) (key : String) :
    fleet.replicas key r ≠ [] := by
  have := length_replicas hs hu hv key r
  have := List.length_pos_iff.2 ha
  rw [← List.length_pos_iff]
  omega

/-- If there are no more active units than replicas, all of them are replicas. -/
theorem mem_replicas_of_few (hs : fleet.ring.Sound) (hu : fleet.ring.Undisputed)
    (hv : 0 < fleet.ring.virtualNodes) (hfew : fleet.activeUnits.length ≤ r)
    (h : unit ∈ fleet.activeUnits) (key : String) : unit ∈ fleet.replicas key r := by
  have hsub : fleet.replicas key r ⊆ fleet.activeUnits := fun w hw =>
    mem_activeUnits_of_mem_replicas hs hw
  have hsubperm := (nodup_replicas hs key r).subperm hsub
  refine (hsubperm.perm_of_length_le ?_).mem_iff.2 h
  rw [length_replicas hs hu hv, Nat.min_eq_right hfew]

/-! ## One unit more -/

/-- The second fleet has one unit more in its rankings and is like the first one otherwise. -/
structure OneMore (fewer more : Fleet) (unit : UnitRef) : Prop where
  /-- The ring without the unit is sound. -/
  fewer_sound : fewer.ring.Sound
  /-- The ring with the unit is sound. -/
  more_sound : more.ring.Sound
  /-- The unit is registered. -/
  registered : more.ring.get? unit.id = some unit
  /-- The other units are ranked in the same order. -/
  ranking : ∀ key, fewer.ranking key = (more.ranking key).filter (·.id != unit.id)

namespace OneMore

variable {fewer more : Fleet} (h : OneMore fewer more unit)
include h

/-- If the unit is a replica, it has its place among the others, and at most one unit follows behind
them where it is missing. -/
theorem replicas (key : String) (r : Nat) :
    (unit ∉ more.replicas key r ∧ fewer.replicas key r = more.replicas key r) ∨
    ∃ front back next, more.replicas key r = front ++ unit :: back ∧
      fewer.replicas key r = front ++ back ++ Option.toList next := by
  rw [replicas_eq h.fewer_sound, replicas_eq h.more_sound, h.ranking]
  by_cases hmem : unit ∈ (more.ranking key).take r
  · exact Or.inr (Ring.take_of_present (ranking_pairwise more key) hmem)
  · refine Or.inl ⟨hmem, Ring.take_of_absent fun w hw hid => hmem ?_⟩
    have hregistered := registered_of_mem_ranking h.more_sound (List.mem_of_mem_take hw)
    rw [hid, h.registered] at hregistered
    rwa [Option.some.inj hregistered]

theorem replicas_of_not_mem (hnot : unit ∉ more.replicas key r) :
    fewer.replicas key r = more.replicas key r := by
  rcases h.replicas key r with ⟨-, hsame⟩ | ⟨front, back, next, hmore, -⟩
  · exact hsame
  · exact absurd (by simp [hmore]) hnot

theorem mem_replicas_of_mem {w : UnitRef} (hw : w ∈ more.replicas key r) (hne : w ≠ unit) :
    w ∈ fewer.replicas key r := by
  rcases h.replicas key r with ⟨-, hsame⟩ | ⟨front, back, next, hmore, hfewer⟩
  · rwa [hsame]
  · rw [hmore, List.mem_append, List.mem_cons] at hw
    rw [hfewer, List.mem_append, List.mem_append]
    tauto

/-- Only one replica gives way to the unit. -/
theorem eq_of_displaced {v w : UnitRef} (hv : v ∈ fewer.replicas key r)
    (hv' : v ∉ more.replicas key r) (hw : w ∈ fewer.replicas key r)
    (hw' : w ∉ more.replicas key r) : v = w := by
  rcases h.replicas key r with ⟨-, hsame⟩ | ⟨front, back, next, hmore, hfewer⟩
  · rw [hsame] at hv
    exact absurd hv hv'
  · rw [hfewer, List.mem_append, List.mem_append, Option.mem_toList] at hv hw
    rw [hmore, List.mem_append, List.mem_cons] at hv' hw'
    have hv : next = some v := by tauto
    have hw : next = some w := by tauto
    exact Option.some.inj (hv.symm.trans hw)

end OneMore

/-! ## Departure -/

/-- What becomes of a fleet when the unit of an id is switched off and leaves the ring. -/
structure Departure (fleet fleet' : Fleet) (unit : UnitRef) : Prop where
  /-- The unit was registered. -/
  registered : fleet.ring.get? unit.id = some unit
  /-- It leaves the ring. -/
  erased : fleet.ring.erase? unit.id = some fleet'.ring
  /-- It is switched off, and nobody else is. -/
  active : ∀ w, fleet'.pool.isActive w = (fleet.pool.isActive w && w != unit)
  /-- All copies stay. -/
  copy : ∀ w j, fleet'.copy w j = fleet.copy w j

theorem departure_of_remove? (hs : fleet.ring.Sound) (hget : fleet.ring.get? id = some unit)
    (h : (fleet.setActive unit false).remove? id = some fleet') : Departure fleet fleet' unit := by
  obtain ⟨ring', hring, rfl⟩ := Option.map_eq_some_iff.1 h
  have hid := hs.id_of_get? hget
  refine ⟨by rw [hid, hget], by rw [hid]; exact hring, fun w => ?_, fun w j => ?_⟩
  · by_cases hw : unit = w
    · subst hw
      simp [setActive, Pool.isActive, Pool.modify, StorageUnit.setActive]
    · simp [setActive, Pool.isActive, Pool.modify, Pool.get_set_of_ne, hw, Ne.symm hw]
  · by_cases hw : unit = w
    · subst hw
      simp [setActive, copy, get, Pool.modify, StorageUnit.setActive]
    · simp [setActive, copy, get, Pool.modify, Pool.get_set_of_ne, hw]

namespace Departure

variable (h : Departure fleet fleet' unit)
include h

theorem sound (hs : fleet.ring.Sound) : fleet'.ring.Sound :=
  hs.erase? h.erased

theorem mem_units (hs : fleet.ring.Sound) {w : UnitRef} :
    w ∈ fleet'.units ↔ w ∈ fleet.units ∧ w ≠ unit := by
  rw [Fleet.mem_units hs, Fleet.mem_units (h.sound hs), Ring.get?_erase? h.erased]
  by_cases hid : w.id = unit.id
  · have hsame : fleet.ring.get? w.id = some w → w = unit := fun hw => by
      rw [hid, h.registered] at hw
      exact (Option.some.inj hw).symm
    rw [if_pos hid]
    constructor
    · intro hw
      simp at hw
    · rintro ⟨hw, hne⟩
      exact absurd (hsame hw) hne
  · rw [if_neg hid]
    exact ⟨fun hw => ⟨hw, fun heq => hid (congrArg UnitRef.id heq)⟩, And.left⟩

theorem mem_activeUnits (hs : fleet.ring.Sound) {w : UnitRef} :
    w ∈ fleet'.activeUnits ↔ w ∈ fleet.activeUnits ∧ w ≠ unit := by
  rw [Fleet.mem_activeUnits, Fleet.mem_activeUnits, h.mem_units hs, h.active]
  simp only [Bool.and_eq_true, bne_iff_ne]
  tauto

/-- The unit leaves every ranking. -/
theorem oneMore (hs : fleet.ring.Sound) : OneMore fleet' fleet unit := by
  refine ⟨h.sound hs, hs, h.registered, fun key => ?_⟩
  unfold ranking
  rw [Ring.order_erase? hs h.erased, List.filter_filter, List.filter_filter]
  refine List.filter_congr fun w hw => ?_
  rw [h.active]
  by_cases hid : w.id = unit.id
  · simp [hid]
  · have hne : w ≠ unit := fun heq => hid (congrArg UnitRef.id heq)
    rw [bne_iff_ne.2 hne, bne_iff_ne.2 hid, Bool.and_true, Bool.and_true, Bool.true_and]

end Departure

/-! ## Admission -/

/-- What becomes of a fleet when a new unit without entries is admitted. -/
structure Admission (fleet fleet' : Fleet) (unit : UnitRef) : Prop where
  /-- The unit enters the ring. -/
  inserted : fleet.ring.insert? unit = some fleet'.ring
  /-- It is active. -/
  active : ∀ w, fleet'.pool.isActive w = (fleet.pool.isActive w || w == unit)
  /-- It holds nothing; the copies of the others stay. -/
  copy : ∀ w j, fleet'.copy w j = if w = unit then none else fleet.copy w j

theorem add?_eq_none_iff {state : StorageUnit} :
    fleet.add? state = none ↔ state.id ∈ fleet.ring.members := by
  refine Option.map_eq_none_iff.trans ?_
  rw [Ring.insert?, ite_eq_left_iff]
  simp only [reduceCtorEq, imp_false, not_not]

theorem admission_of_add? {host : String} {port : UInt16}
    (h : fleet.add? { id, host, port } = some (unit, fleet')) :
    unit.id = id ∧ Admission fleet fleet' unit := by
  obtain ⟨ring', hring, hpair⟩ := Option.map_eq_some_iff.1 h
  obtain ⟨rfl, rfl⟩ := Prod.mk.inj hpair
  refine ⟨rfl, hring, fun w => ?_, fun w j => ?_⟩
  · by_cases hw : (⟨id, fleet.pool.admissions⟩ : UnitRef) = w
    · subst hw
      simp [Pool.isActive, Pool.get]
    · simp [Pool.isActive, Pool.get, Std.ExtTreeMap.getD_insert, hw, Ne.symm hw]
  · by_cases hw : (⟨id, fleet.pool.admissions⟩ : UnitRef) = w
    · subst hw
      simp [Fleet.copy, get, Pool.get]
    · simp [Fleet.copy, get, Pool.get, Std.ExtTreeMap.getD_insert, hw, Ne.symm hw]

namespace Admission

variable (h : Admission fleet fleet' unit)
include h

theorem sound (hs : fleet.ring.Sound) : fleet'.ring.Sound :=
  hs.insert? h.inserted

theorem not_mem_units (hs : fleet.ring.Sound) : unit ∉ fleet.units := by
  rw [Fleet.mem_units hs, Ring.get?_eq_none_iff.2 (Ring.insert?_eq_some_iff.1 h.inserted).1]
  simp

theorem mem_units (hs : fleet.ring.Sound) {w : UnitRef} :
    w ∈ fleet'.units ↔ w ∈ fleet.units ∨ w = unit := by
  rw [Fleet.mem_units hs, Fleet.mem_units (h.sound hs), Ring.get?_insert? h.inserted]
  have hfree := Ring.get?_eq_none_iff.2 (Ring.insert?_eq_some_iff.1 h.inserted).1
  by_cases hid : w.id = unit.id
  · rw [if_pos hid, hid, hfree]
    simp [eq_comm]
  · rw [if_neg hid]
    exact ⟨Or.inl, fun hw => hw.resolve_right fun heq => hid (congrArg UnitRef.id heq)⟩

theorem mem_units_self (hs : fleet.ring.Sound) : unit ∈ fleet'.units :=
  (h.mem_units hs).2 (Or.inr rfl)

theorem ne_of_mem_units (hs : fleet.ring.Sound) {w : UnitRef} (hw : w ∈ fleet.units) : w ≠ unit :=
  fun heq => h.not_mem_units hs (heq ▸ hw)

theorem copy_self (key : String) : fleet'.copy unit key = none := by
  rw [h.copy, if_pos rfl]

theorem copy_of_mem_units (hs : fleet.ring.Sound) {w : UnitRef} (hw : w ∈ fleet.units)
    (key : String) : fleet'.copy w key = fleet.copy w key := by
  rw [h.copy, if_neg (h.ne_of_mem_units hs hw)]

/-- A unit that is admitted to vacant positions enters the rankings. -/
theorem oneMore (hs : fleet.ring.Sound)
    (hvacant : ∀ p ∈ fleet.ring.labelPositions unit.id, fleet.ring.slots[p]? = none) :
    OneMore fleet fleet' unit := by
  refine ⟨hs, h.sound hs, by rw [Ring.get?_insert? h.inserted, if_pos rfl], fun key => ?_⟩
  unfold ranking
  rw [Ring.order_insert? hs h.inserted hvacant, List.filter_filter, List.filter_filter]
  refine List.filter_congr fun w _ => ?_
  rw [h.active]
  by_cases hid : w.id = unit.id
  · simp [hid]
  · have hne : w ≠ unit := fun heq => hid (congrArg UnitRef.id heq)
    rw [beq_false_of_ne hne, bne_iff_ne.2 hid, Bool.or_false, Bool.and_true, Bool.true_and]

end Admission

end QuorumRing.Fleet
