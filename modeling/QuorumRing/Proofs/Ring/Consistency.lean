import QuorumRing.Proofs.Ring.History

/-!
# Consistency by counting

A consistency check goes through the positions recorded for each member and asks who owns them. It never
asks whether an occupied position is recorded by somebody. It need not: the owner of a position is a
member that has it on record, so that every occupied position is counted for exactly one member
(`Ring.sum_slotsOf`), and of the positions recorded for a member those that it does not own are the
problems that are listed (`Ring.problems_add_slotsOf`).

So the number of problems is what the records of all members together have in excess of the occupied
positions, and whether a ring is consistent can be told from the number of occupied positions alone.
-/

namespace QuorumRing.Ring

variable {ring : Ring} {unit : UnitRef} {id : String} {member : Member} {position : Position}

/-- The number of positions that a unit owns. -/
def slotsOf (ring : Ring) (unit : UnitRef) : Nat := (ring.slots.toList.map (·.2)).count unit

/-! ## One member -/

theorem ownershipProblem?_eq_none_iff (hs : ring.Sound) (hget : ring.get? id = some unit) :
    ring.ownershipProblem? id position = none ↔ ring.slots[position]? = some unit := by
  unfold ownershipProblem?
  cases hslot : ring.slots[position]? with
  | none => simp
  | some owner =>
    have hregistered := hs.owner_registered hslot
    have hid := hs.id_of_get? hget
    constructor
    · intro hnone
      have howner : owner.id = id := by simpa using hnone
      rw [howner, hget] at hregistered
      exact hregistered.symm
    · intro howner
      obtain rfl := Option.some.inj howner
      exact if_pos hid

theorem slotsOf_eq_length (ring : Ring) (unit : UnitRef) :
    ring.slotsOf unit = (ring.slots.toList.filter (·.2 = unit)).length := by
  rw [slotsOf, List.count_eq_countP, List.countP_map, List.countP_eq_length_filter]
  rfl

/-- What a member owns is that part of its recorded positions where it is found as the owner. -/
theorem slotsOf_eq_countP (hs : ring.Sound) (hmember : ring.members[id]? = some member) :
    ring.slotsOf member.unit =
      member.positions.toList.countP fun p => ring.slots[p]? = some member.unit := by
  have hperm : ((ring.slots.toList.filter (·.2 = member.unit)).map (·.1)).Perm
      (member.positions.toList.filter fun p => ring.slots[p]? = some member.unit) := by
    refine (List.perm_ext_iff_of_nodup ?_ ?_).2 fun p => ?_
    · refine List.pairwise_map.2 ((ring.slots.distinct_keys_toList.filter _).imp ?_)
      exact Std.ReflCmp.ne_of_cmp_ne_eq
    · exact (Std.ExtTreeSet.distinct_toList.imp Std.ReflCmp.ne_of_cmp_ne_eq).filter _
    · have hlabel : ring.slots[p]? = some member.unit → p ∈ member.positions := by
        intro hslot
        rw [hs.member_positions hmember, ← hs.member_id hmember]
        exact hs.owner_label hslot
      simpa [Std.ExtTreeMap.mem_toList_iff_getElem?_eq_some] using hlabel
  rw [slotsOf_eq_length, List.countP_eq_length_filter, ← hperm.length_eq, List.length_map]

/-- The ownership problems of a member are those of its positions. -/
theorem countP_memberProblems (ring : Ring) (id : String) (member : Member) :
    (ring.memberProblems id member).countP (·.isOwnership) =
      (member.positions.toList.filterMap (ring.ownershipProblem? id)).length := by
  have hcount : (if member.positions.size = ring.virtualNodes then []
      else [Inconsistency.count id member.positions.size ring.virtualNodes]).countP
        (·.isOwnership) = 0 := by
    split <;> rfl
  rw [memberProblems, List.countP_append, hcount, Nat.zero_add, List.countP_eq_length]
  intro problem hproblem
  obtain ⟨p, -, hproblem⟩ := List.mem_filterMap.1 hproblem
  unfold ownershipProblem? at hproblem
  split at hproblem
  · split at hproblem
    · cases hproblem
    · obtain rfl := Option.some.inj hproblem
      rfl
  · obtain rfl := Option.some.inj hproblem
    rfl

/-- Besides them only the number of positions can be wrong. -/
theorem length_memberProblems (ring : Ring) (id : String) (member : Member) :
    (ring.memberProblems id member).length =
      (if member.positions.size = ring.virtualNodes then 0 else 1) +
        (ring.memberProblems id member).countP (·.isOwnership) := by
  rw [countP_memberProblems, memberProblems, List.length_append]
  split <;> rfl

/-- The positions recorded for a member are those that it owns and those that are listed as problems. -/
theorem problems_add_slotsOf (hs : ring.Sound) (hmember : ring.members[id]? = some member) :
    (ring.memberProblems id member).countP (·.isOwnership) + ring.slotsOf member.unit =
      member.positions.size := by
  have hget : ring.get? id = some member.unit := get?_eq_some_iff.2 ⟨member, hmember, rfl⟩
  rw [countP_memberProblems, List.length_filterMap_eq_countP, slotsOf_eq_countP hs hmember,
    ← Std.ExtTreeSet.length_toList,
    List.length_eq_countP_add_countP fun p => (ring.ownershipProblem? id p).isSome]
  refine congrArg _ (List.countP_congr fun p _ => ?_)
  simp [← ownershipProblem?_eq_none_iff hs hget]

theorem size_positions_le (hs : ring.Sound) (hmember : ring.members[id]? = some member) :
    member.positions.size ≤ ring.virtualNodes := by
  rw [hs.member_positions hmember, labelPositions]
  refine Std.ExtTreeSet.size_ofList_le.trans_eq ?_
  rw [virtualNodePositions, List.length_map, List.length_range]

/-- Nothing is wrong with a member if and only if it owns as many positions as it has virtual nodes. -/
theorem memberProblems_eq_nil_iff (hs : ring.Sound) (hmember : ring.members[id]? = some member) :
    ring.memberProblems id member = [] ↔ ring.slotsOf member.unit = ring.virtualNodes := by
  have hsum := problems_add_slotsOf hs hmember
  have hle := size_positions_le hs hmember
  rw [← List.length_eq_zero_iff, length_memberProblems]
  split <;> omega

theorem slotsOf_le (hs : ring.Sound) (hunit : unit ∈ ring.units) :
    ring.slotsOf unit ≤ ring.virtualNodes := by
  obtain ⟨member, hmember, rfl⟩ := get?_eq_some_iff.1 ((mem_units hs).1 hunit)
  have hsum := problems_add_slotsOf hs hmember
  exact le_trans (by omega) (size_positions_le hs hmember)

/-! ## All members -/

theorem nodup_units (hs : ring.Sound) : ring.units.Nodup := nodup_of_pairwise (units_pairwise hs)

/-- Every occupied position is that of one member. -/
theorem sum_slotsOf (hs : ring.Sound) :
    ∑ unit ∈ ring.units.toFinset, ring.slotsOf unit = ring.slotCount := by
  have howners : ∀ unit ∈ (ring.slots.toList.map (·.2) : Multiset UnitRef),
      unit ∈ ring.units.toFinset := by
    intro unit hunit
    obtain ⟨slot, hslot, rfl⟩ := List.mem_map.1 (Multiset.mem_coe.1 hunit)
    rw [List.mem_toFinset, mem_units hs]
    exact hs.owner_registered (Std.ExtTreeMap.mem_toList_iff_getElem?_eq_some.1 hslot)
  have hsum := Multiset.sum_count_eq_card howners
  simp only [Multiset.coe_count, Multiset.coe_card, List.length_map,
    Std.ExtTreeMap.length_toList] at hsum
  exact hsum

theorem slotCount_eq_iff (hs : ring.Sound) : ring.slotCount = ring.virtualNodes * ring.size ↔
    ∀ unit ∈ ring.units, ring.slotsOf unit = ring.virtualNodes := by
  have hsize : ring.size = ring.units.toFinset.card := by
    rw [List.toFinset_card_of_nodup (nodup_units hs), units, List.length_map,
      Std.ExtTreeMap.length_toList, size]
  have htotal : ring.virtualNodes * ring.size =
      ∑ _unit ∈ ring.units.toFinset, ring.virtualNodes := by
    rw [Finset.sum_const, smul_eq_mul, hsize, Nat.mul_comm]
  rw [← sum_slotsOf hs, htotal, Finset.sum_eq_sum_iff_of_le]
  · simp only [List.mem_toFinset]
  · exact fun unit hunit => slotsOf_le hs (List.mem_toFinset.1 hunit)

theorem isConsistent_iff_slotsOf (hs : ring.Sound) : ring.isConsistent = true ↔
    ∀ unit ∈ ring.units, ring.slotsOf unit = ring.virtualNodes := by
  simp only [isConsistent, inconsistencies, List.isEmpty_iff, List.flatMap_eq_nil_iff, units,
    List.forall_mem_map]
  refine forall₂_congr fun entry hentry => ?_
  exact memberProblems_eq_nil_iff hs (Std.ExtTreeMap.mem_toList_iff_getElem?_eq_some.1 hentry)

/-- The positions recorded for all members, each as often as it is recorded, are the occupied ones and
those that are listed as problems. -/
theorem problems_add_slotCount (hs : ring.Sound) :
    ring.inconsistencies.countP (·.isOwnership) + ring.slotCount =
      (ring.units.map fun unit => (ring.positionsOf unit.id).length).sum := by
  rw [← sum_slotsOf hs, List.sum_toFinset _ (nodup_units hs), inconsistencies, List.countP_flatMap,
    units, List.map_map, List.map_map, ← List.sum_map_add]
  refine congrArg List.sum (List.map_congr_left fun entry hentry => ?_)
  have hmember := Std.ExtTreeMap.mem_toList_iff_getElem?_eq_some.1 hentry
  have hpositions : (ring.positionsOf entry.2.unit.id).length = entry.2.positions.size := by
    rw [hs.member_id hmember, positionsOf, hmember, ← Std.ExtTreeSet.length_toList]
    rfl
  exact (problems_add_slotsOf hs hmember).trans hpositions.symm

/-- After every history, with any labels colliding: a ring is consistent if and only if so many positions
are occupied as all its members have virtual nodes, which is so if and only if every member owns as many
positions as it has virtual nodes. And the listed problems of ownership are as many as the recorded
positions of all members exceed the occupied ones by. -/
theorem isConsistent_iff_slotCount (virtualNodes : Nat) (changes : List Change) :
    let ring := ofHistory virtualNodes changes
    (ring.isConsistent = true ↔ ring.slotCount = virtualNodes * ring.size) ∧
      (ring.slotCount = virtualNodes * ring.size ↔
        ∀ unit ∈ ring.units, ring.slotsOf unit = virtualNodes) ∧
      ring.inconsistencies.countP (·.isOwnership) + ring.slotCount =
        (ring.units.map fun unit => (ring.positionsOf unit.id).length).sum := by
  intro ring
  have hs : ring.Sound := sound_ofHistory virtualNodes changes
  have hv : ring.virtualNodes = virtualNodes := virtualNodes_ofHistory virtualNodes changes
  have hslots := slotCount_eq_iff hs
  have hconsistent := isConsistent_iff_slotsOf hs
  rw [hv] at hslots hconsistent
  exact ⟨hconsistent.trans hslots.symm, hslots, problems_add_slotCount hs⟩

/-- The label of the first unit was taken over by the second one, which has left: the position is on
record and vacant. -/
example : (ofHistory 1 [.add ⟨"node71237", 0⟩, .add ⟨"node71347", 1⟩,
    .remove "node71347"]).inconsistencies = [.missing 3588211918 "node71237"] := by
  decide +kernel

end QuorumRing.Ring
