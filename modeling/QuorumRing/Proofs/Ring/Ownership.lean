import Mathlib
import QuorumRing.Ring.Consistency

/-!
# Who owns the positions of a ring

Two facts hold of every ring that comes about by adding and removing units (`Ring.Sound`): a member
is recorded under its id with the positions of its labels, and the owner of an occupied position is
the unit registered under its id, with a label there. If moreover no label of a unit meets a label
of another one, every member owns all of its positions (`Ring.Undisputed`).

Both are preserved by admissions and removals. A removal vacates exactly the positions of the unit
removed (`Ring.slots_erase?`), and an admission to vacant positions is undone by that
(`Ring.slots_insert?`), so that all that is said about the walk along a ring follows from these two
equations.
-/

namespace QuorumRing.Ring

variable {ring ring' : Ring} {unit : UnitRef} {id : String} {position : Position}

theorem mem_labelPositions {p : Position} : p ∈ ring.labelPositions id ↔
    ∃ i < ring.virtualNodes, Position.ofString (virtualNodeLabel id i) = p := by
  simp [labelPositions, virtualNodePositions]

/-- Whether the positions of an id are vacant can be told label by label. -/
theorem vacant_iff : (∀ p ∈ ring.labelPositions id, ring.slots[p]? = none) ↔
    ∀ i < ring.virtualNodes, ring.slots[Position.ofString (virtualNodeLabel id i)]? = none := by
  simp only [mem_labelPositions]
  exact ⟨fun h i hi => h _ ⟨i, hi, rfl⟩, fun h p ⟨i, hi, hp⟩ => hp ▸ h i hi⟩

/-! ## Claiming and releasing positions -/

theorem getElem?_claim (unit : UnitRef) (positions : List Position)
    (slots : Std.ExtTreeMap Position UnitRef) (p : Position) :
    (claim unit positions slots)[p]? = if p ∈ positions then some unit else slots[p]? := by
  unfold claim
  induction positions generalizing slots with
  | nil => simp
  | cons q positions ih =>
    rw [List.foldl_cons, ih, Std.ExtTreeMap.getElem?_insert]
    by_cases hp : p ∈ positions
    · simp [hp]
    · by_cases hq : q = p
      · simp [hq]
      · simp [hp, hq, Ne.symm hq]

theorem getElem?_release (id : String) (positions : List Position)
    (slots : Std.ExtTreeMap Position UnitRef) (p : Position) :
    (release id positions slots)[p]? =
      if p ∈ positions ∧ slots[p]?.any (fun u : UnitRef => u.id == id) then none
      else slots[p]? := by
  unfold release
  induction positions generalizing slots with
  | nil => simp
  | cons q positions ih =>
    rw [List.foldl_cons, ih]
    by_cases hq : q = p
    · subst hq
      by_cases hown : slots[q]?.any fun u : UnitRef => u.id == id
      · simp [hown]
      · simp [hown]
    · have hkeep : (if slots[q]?.any (fun u : UnitRef => u.id == id) then slots.erase q
          else slots)[p]? = slots[p]? := by
        split
        · simp [Std.ExtTreeMap.getElem?_erase, hq]
        · rfl
      simp [hkeep, Ne.symm hq]

/-! ## Sound rings -/

/-- The books of a ring are in order. -/
structure Sound (ring : Ring) : Prop where
  /-- A member is recorded under its id. -/
  member_id : ∀ {id : String} {m : Member}, ring.members[id]? = some m → m.unit.id = id
  /-- The positions of a member are those of its labels. -/
  member_positions : ∀ {id : String} {m : Member}, ring.members[id]? = some m →
    m.positions = ring.labelPositions id
  /-- The owner of a position is the unit registered under its id. -/
  owner_registered : ∀ {p : Position} {u : UnitRef}, ring.slots[p]? = some u →
    ring.get? u.id = some u
  /-- The owner of a position has a label there. -/
  owner_label : ∀ {p : Position} {u : UnitRef}, ring.slots[p]? = some u →
    p ∈ ring.labelPositions u.id

theorem get?_eq_some_iff : ring.get? id = some unit ↔
    ∃ m, ring.members[id]? = some m ∧ m.unit = unit := by
  simp [get?]

theorem get?_eq_none_iff : ring.get? id = none ↔ id ∉ ring.members := by
  simp [get?]

theorem Sound.id_of_get? (h : ring.Sound) (hu : ring.get? id = some unit) : unit.id = id := by
  obtain ⟨m, hm, rfl⟩ := get?_eq_some_iff.1 hu
  exact h.member_id hm

theorem sound_empty (virtualNodes : Nat) : Sound { virtualNodes } where
  member_id h := by simp at h
  member_positions h := by simp at h
  owner_registered h := by simp at h
  owner_label h := by simp at h

/-! ## Registered units -/

theorem mem_units (hs : ring.Sound) : unit ∈ ring.units ↔ ring.get? unit.id = some unit := by
  simp only [units, List.mem_map, Prod.exists, get?_eq_some_iff,
    Std.ExtTreeMap.mem_toList_iff_getElem?_eq_some]
  constructor
  · rintro ⟨id, m, hm, rfl⟩
    exact ⟨m, by rw [hs.member_id hm, hm], rfl⟩
  · rintro ⟨m, hm, rfl⟩
    exact ⟨_, m, hm, rfl⟩

theorem units_pairwise (hs : ring.Sound) : ring.units.Pairwise fun u v => u.id ≠ v.id := by
  refine List.pairwise_map.2 ?_
  refine ring.members.distinct_keys_toList.imp_of_mem fun {a b} ha hb hne hid => hne ?_
  have hida := hs.member_id (Std.ExtTreeMap.mem_toList_iff_getElem?_eq_some.1 ha)
  have hidb := hs.member_id (Std.ExtTreeMap.mem_toList_iff_getElem?_eq_some.1 hb)
  rw [← hida, ← hidb, hid]
  exact Std.ReflCmp.compare_self

theorem nodup_of_pairwise {units : List UnitRef} (h : units.Pairwise fun u v => u.id ≠ v.id) :
    units.Nodup :=
  h.imp fun hid heq => hid (congrArg UnitRef.id heq)

/-! ## Admission -/

theorem insert?_eq_some_iff : ring.insert? unit = some ring' ↔
    unit.id ∉ ring.members ∧ ring' = { ring with
      slots := claim unit (ring.labelPositions unit.id).toList ring.slots
      members := ring.members.insert unit.id ⟨unit, ring.labelPositions unit.id⟩ } := by
  unfold insert?
  split
  · simp_all
  · simp_all [eq_comm]

theorem get?_insert? (h : ring.insert? unit = some ring') (id : String) :
    ring'.get? id = if id = unit.id then some unit else ring.get? id := by
  obtain ⟨-, rfl⟩ := insert?_eq_some_iff.1 h
  by_cases hid : id = unit.id
  · simp [get?, hid]
  · simp [get?, Std.ExtTreeMap.getElem?_insert, hid, Ne.symm hid]

theorem virtualNodes_insert? (h : ring.insert? unit = some ring') :
    ring'.virtualNodes = ring.virtualNodes := by
  obtain ⟨-, rfl⟩ := insert?_eq_some_iff.1 h
  rfl

theorem mem_members_insert? (h : ring.insert? unit = some ring') {other : String} :
    other ∈ ring'.members ↔ other = unit.id ∨ other ∈ ring.members := by
  rw [(insert?_eq_some_iff.1 h).2, Std.ExtTreeMap.mem_insert, Std.LawfulEqCmp.compare_eq_iff_eq,
    eq_comm]

theorem getElem?_slots_insert? (h : ring.insert? unit = some ring') (p : Position) :
    ring'.slots[p]? = if p ∈ ring.labelPositions unit.id then some unit else ring.slots[p]? := by
  obtain ⟨-, rfl⟩ := insert?_eq_some_iff.1 h
  rw [getElem?_claim]
  simp only [Std.ExtTreeSet.mem_toList]

theorem Sound.insert? (hs : ring.Sound) (h : ring.insert? unit = some ring') : ring'.Sound := by
  have hget := get?_insert? h
  have hslots := getElem?_slots_insert? h
  obtain ⟨hfree, rfl⟩ := insert?_eq_some_iff.1 h
  have hother : ∀ {p : Position} {u : UnitRef}, ring.slots[p]? = some u → u.id ≠ unit.id := by
    intro p u hu hid
    have := hs.owner_registered hu
    rw [hid, get?_eq_none_iff.2 hfree] at this
    simp at this
  constructor
  · intro id m hm
    rw [Std.ExtTreeMap.getElem?_insert] at hm
    split at hm
    next hid =>
      cases hm
      exact Std.LawfulEqOrd.eq_of_compare hid
    · exact hs.member_id hm
  · intro id m hm
    rw [Std.ExtTreeMap.getElem?_insert] at hm
    split at hm
    next hid =>
      cases hm
      rw [← Std.LawfulEqOrd.eq_of_compare hid]
      rfl
    · exact hs.member_positions hm
  · intro p u hu
    rw [hslots] at hu
    rw [hget]
    split at hu
    · simp_all
    · rw [if_neg (hother hu)]
      exact hs.owner_registered hu
  · intro p u hu
    rw [hslots] at hu
    split at hu
    · cases hu
      assumption
    · exact hs.owner_label hu

/-! ## Removal -/

theorem erase?_eq_some_iff : ring.erase? id = some ring' ↔
    ∃ m, ring.members[id]? = some m ∧ ring' = { ring with
      slots := release id m.positions.toList ring.slots
      members := ring.members.erase id } := by
  simp [erase?, eq_comm]

theorem get?_erase? (h : ring.erase? id = some ring') (other : String) :
    ring'.get? other = if other = id then none else ring.get? other := by
  obtain ⟨m, -, rfl⟩ := erase?_eq_some_iff.1 h
  by_cases hid : other = id
  · simp [get?, hid]
  · simp [get?, Std.ExtTreeMap.getElem?_erase, hid, Ne.symm hid]

theorem virtualNodes_erase? (h : ring.erase? id = some ring') :
    ring'.virtualNodes = ring.virtualNodes := by
  obtain ⟨m, -, rfl⟩ := erase?_eq_some_iff.1 h
  rfl

theorem mem_members_erase? (h : ring.erase? id = some ring') {other : String} :
    other ∈ ring'.members ↔ other ≠ id ∧ other ∈ ring.members := by
  obtain ⟨m, -, hring⟩ := erase?_eq_some_iff.1 h
  rw [hring, Std.ExtTreeMap.mem_erase, ne_eq, Std.LawfulEqCmp.compare_eq_iff_eq, eq_comm]

/-- A removal vacates exactly the positions that units of this id own. -/
theorem slots_erase? (hs : ring.Sound) (h : ring.erase? id = some ring') :
    ring'.slots = ring.slots.filter fun _ u => u.id != id := by
  obtain ⟨m, hm, rfl⟩ := erase?_eq_some_iff.1 h
  refine Std.ExtTreeMap.ext_getElem? fun p => ?_
  rw [getElem?_release, Std.ExtTreeMap.getElem?_filter', hs.member_positions hm]
  cases hp : ring.slots[p]? with
  | none => simp
  | some u =>
    by_cases hu : u.id = id
    · have : p ∈ ring.labelPositions id := hu ▸ hs.owner_label hp
      simp [hu, this, Option.filter_some]
    · simp [hu, Option.filter_some]

theorem getElem?_slots_erase? (hs : ring.Sound) (h : ring.erase? id = some ring') (p : Position) :
    ring'.slots[p]? = ring.slots[p]?.filter fun u : UnitRef => u.id != id := by
  rw [slots_erase? hs h, Std.ExtTreeMap.getElem?_filter']

theorem Sound.erase? (hs : ring.Sound) (h : ring.erase? id = some ring') : ring'.Sound := by
  have hget := get?_erase? h
  have hslots := getElem?_slots_erase? hs h
  have hlabels : ∀ id, ring'.labelPositions id = ring.labelPositions id := fun id => by
    simp [labelPositions, virtualNodes_erase? h]
  constructor
  · intro other m hm
    obtain ⟨n, hn, rfl⟩ := erase?_eq_some_iff.1 h
    rw [Std.ExtTreeMap.getElem?_erase] at hm
    split at hm
    · simp at hm
    · exact hs.member_id hm
  · intro other m hm
    rw [hlabels]
    obtain ⟨n, hn, rfl⟩ := erase?_eq_some_iff.1 h
    rw [Std.ExtTreeMap.getElem?_erase] at hm
    split at hm
    · simp at hm
    · exact hs.member_positions hm
  · intro p u hu
    rw [hslots, Option.filter_eq_some_iff] at hu
    rw [hget, if_neg (by simpa using hu.2)]
    exact hs.owner_registered hu.1
  · intro p u hu
    rw [hslots, Option.filter_eq_some_iff] at hu
    rw [hlabels]
    exact hs.owner_label hu.1

/-! ## Undisputed positions -/

/-- Every member owns all the positions of its labels. -/
def Undisputed (ring : Ring) : Prop :=
  ∀ id unit, ring.get? id = some unit → ∀ p ∈ ring.labelPositions id, ring.slots[p]? = some unit

theorem undisputed_empty (virtualNodes : Nat) : Undisputed { virtualNodes } := by
  intro id unit h
  simp [get?] at h

/-- A unit that is admitted to vacant positions disputes nobody's. -/
theorem Undisputed.insert? (hu : ring.Undisputed) (h : ring.insert? unit = some ring')
    (hvacant : ∀ p ∈ ring.labelPositions unit.id, ring.slots[p]? = none) : ring'.Undisputed := by
  intro id u hget p hp
  have hlabels : ring'.labelPositions id = ring.labelPositions id := by
    simp [labelPositions, virtualNodes_insert? h]
  rw [hlabels] at hp
  rw [get?_insert? h] at hget
  rw [getElem?_slots_insert? h]
  split at hget
  next hid =>
    subst hid
    rw [if_pos hp, hget]
  next hid =>
    have howned := hu id u hget p hp
    rw [if_neg, howned]
    intro hclash
    rw [hvacant p hclash] at howned
    simp at howned

theorem Undisputed.erase? (hs : ring.Sound) (hu : ring.Undisputed)
    (h : ring.erase? id = some ring') : ring'.Undisputed := by
  intro other u hget p hp
  have hlabels : ring'.labelPositions other = ring.labelPositions other := by
    simp [labelPositions, virtualNodes_erase? h]
  rw [hlabels] at hp
  rw [get?_erase? h] at hget
  split at hget
  · simp at hget
  next hid =>
    rw [getElem?_slots_erase? hs h, hu other u hget p hp, Option.filter_some, if_pos]
    simpa [hs.id_of_get? hget] using hid

/-- The positions to which an admission gives a unit are vacated again by leaving out its id. -/
theorem slots_insert? (hs : ring.Sound) (h : ring.insert? unit = some ring')
    (hvacant : ∀ p ∈ ring.labelPositions unit.id, ring.slots[p]? = none) :
    ring.slots = ring'.slots.filter fun _ u => u.id != unit.id := by
  refine Std.ExtTreeMap.ext_getElem? fun p => ?_
  rw [Std.ExtTreeMap.getElem?_filter', getElem?_slots_insert? h]
  by_cases hp : p ∈ ring.labelPositions unit.id
  · simp [hp, hvacant p hp, Option.filter_some]
  · rw [if_neg hp]
    cases hu : ring.slots[p]? with
    | none => simp
    | some u =>
      have hother : u.id ≠ unit.id := fun hid => hp (hid ▸ hs.owner_label hu)
      simp [hother, Option.filter_some]

/-! ## Consistent rings -/

theorem isConsistent_iff : ring.isConsistent = true ↔
    ∀ id m, ring.members[id]? = some m → m.positions.size = ring.virtualNodes ∧
      ∀ p ∈ m.positions, ring.slots[p]?.any (fun u : UnitRef => u.id == id) := by
  have hproblem : ∀ (id : String) (p : Position), ring.ownershipProblem? id p = none ↔
      ring.slots[p]?.any fun u : UnitRef => u.id == id := by
    intro id p
    unfold ownershipProblem?
    split <;> simp_all
  have hmember : ∀ (id : String) (m : Member), ring.memberProblems id m = [] ↔
      m.positions.size = ring.virtualNodes ∧
        ∀ p ∈ m.positions, ring.slots[p]?.any (fun u : UnitRef => u.id == id) := by
    intro id m
    simp only [memberProblems, List.append_eq_nil_iff, List.filterMap_eq_nil_iff, hproblem,
      Std.ExtTreeSet.mem_toList]
    refine and_congr_left fun _ => ?_
    split <;> simp_all
  simp only [isConsistent, inconsistencies, List.isEmpty_iff, List.flatMap_eq_nil_iff, Prod.forall,
    Std.ExtTreeMap.mem_toList_iff_getElem?_eq_some, hmember]

/-- In a sound and consistent ring nobody's positions are disputed. -/
theorem Sound.undisputed (hs : ring.Sound) (hc : ring.isConsistent = true) : ring.Undisputed := by
  intro id u hget p hp
  obtain ⟨m, hm, rfl⟩ := get?_eq_some_iff.1 hget
  have howned := (isConsistent_iff.1 hc id m hm).2 p (hs.member_positions hm ▸ hp)
  cases hslot : ring.slots[p]? with
  | none => simp [hslot] at howned
  | some owner =>
    rw [hslot] at howned
    have hid : owner.id = id := by simpa using howned
    have hregistered := hs.owner_registered hslot
    rw [hid, hget] at hregistered
    exact hregistered.symm

end QuorumRing.Ring
