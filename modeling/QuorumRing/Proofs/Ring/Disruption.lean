import QuorumRing.Proofs.Ring.Closeness
import QuorumRing.Proofs.Ring.History

/-!
# What the change of one unit does to all replica sets

When a unit is switched off or removed, and likewise when the admission of a unit is undone, it is
left out of the order of closeness and nobody else moves. A replica set without it is cut from the
set that has one more replica (`Ring.LeavesOut`): the other members stay, in the same order, and at
most one unit follows behind them.
-/

namespace QuorumRing.Ring

variable {ring ring' : Ring} {unit : UnitRef} {active active' : UnitRef → Bool} {key : String}

/-- Of the selections of any size from a ranking, the second ones leave out a unit and are like the
first ones otherwise. -/
structure LeavesOut (unit : UnitRef) (more fewer : Nat → List UnitRef) : Prop where
  /-- To select so many without the unit, select one more, leave out the unit, and cut. -/
  cut : ∀ r, fewer r = ((more (r + 1)).filter (· != unit)).take r
  /-- The others keep their places, and at most one unit follows behind them. -/
  follow : ∀ r, ∃ next : Option UnitRef, fewer r = (more r).filter (· != unit) ++ next.toList

/-- If a unit is left out of the order of the active units, it is left out of all replica sets. -/
theorem leavesOut_of_order {more fewer : Ring} (hmore : more.Sound) (hfewer : fewer.Sound)
    (h : (fewer.order key).filter active' = ((more.order key).filter active).filter (· != unit)) :
    LeavesOut unit (more.replicaSet active key) (fewer.replicaSet active' key) := by
  have hnodup : ((more.order key).filter active).Nodup :=
    (nodup_of_pairwise (order_pairwise more key)).filter _
  have hone := pairwise_ne_or_ne hnodup unit
  constructor
  · intro r
    rw [replicaSet_eq hmore, replicaSet_eq hfewer, h]
    exact take_filter_of_pairwise hone r
  · intro r
    rw [replicaSet_eq hmore, replicaSet_eq hfewer, h]
    exact exists_next_of_pairwise hone r

/-! ## The three changes -/

theorem leavesOut_of_inactive (hs : ring.Sound) :
    LeavesOut unit (ring.replicaSet active key)
      (ring.replicaSet (fun u => active u && u != unit) key) := by
  refine leavesOut_of_order hs hs ?_
  rw [List.filter_filter]
  exact List.filter_congr fun u _ => Bool.and_comm _ _

/-- In the order of closeness a registered unit can be told by its id. -/
theorem order_filter_id_ne (hs : ring.Sound) (hget : ring.get? unit.id = some unit) :
    (ring.order key).filter (·.id != unit.id) = (ring.order key).filter (· != unit) := by
  refine List.filter_congr fun u hu => ?_
  have hregistered := get?_of_mem_order hs hu
  by_cases hid : u.id = unit.id
  · rw [hid, hget] at hregistered
    rw [Option.some.inj hregistered, bne_self_eq_false, bne_self_eq_false]
  · have hne : u ≠ unit := fun heq => hid (congrArg UnitRef.id heq)
    rw [bne_iff_ne.2 hid, bne_iff_ne.2 hne]

/-- Whether the unit is switched off as well does not matter once it is removed. -/
theorem leavesOut_of_erase? (hs : ring.Sound) (hget : ring.get? unit.id = some unit)
    (h : ring.erase? unit.id = some ring') (hactive : ∀ u, u ≠ unit → active' u = active u) :
    LeavesOut unit (ring.replicaSet active key) (ring'.replicaSet active' key) := by
  refine leavesOut_of_order hs (hs.erase? h) ?_
  rw [order_erase? hs h, order_filter_id_ne hs hget, List.filter_filter, List.filter_filter]
  refine List.filter_congr fun u _ => ?_
  by_cases hu : u = unit
  · simp [hu]
  · rw [hactive u hu, Bool.and_comm]

theorem leavesOut_of_insert? (hs : ring.Sound) (h : ring.insert? unit = some ring')
    (hvacant : ∀ p ∈ ring.labelPositions unit.id, ring.slots[p]? = none) :
    LeavesOut unit (ring'.replicaSet active key) (ring.replicaSet active key) := by
  have hs' := hs.insert? h
  have hget : ring'.get? unit.id = some unit := by rw [get?_insert? h, if_pos rfl]
  refine leavesOut_of_order hs' hs ?_
  rw [order_insert? hs h hvacant, order_filter_id_ne hs' hget, List.filter_comm]

/-- After every history and for every liveness: switching off or removing a registered unit leaves
it out of all replica sets, and so does undoing the admission of a new unit to vacant positions. So
no change of one unit displaces more than one other replica, and none reorders the others. -/
theorem replicaSet_leavesOut (virtualNodes : Nat) (changes : List Change)
    (active : UnitRef → Bool) (key : String) :
    let ring := ofHistory virtualNodes changes
    (∀ unit, ring.get? unit.id = some unit →
      LeavesOut unit (ring.replicaSet active key)
        (ring.replicaSet (fun u => active u && u != unit) key) ∧
      ∃ ring', ring.erase? unit.id = some ring' ∧
        ∀ active', (∀ u, u ≠ unit → active' u = active u) →
          LeavesOut unit (ring.replicaSet active key) (ring'.replicaSet active' key)) ∧
    (∀ unit, unit.id ∉ ring.members →
      (∀ p ∈ ring.labelPositions unit.id, ring.slots[p]? = none) →
      ∃ ring', ring.insert? unit = some ring' ∧
        LeavesOut unit (ring'.replicaSet active key) (ring.replicaSet active key)) := by
  intro ring
  have hs : ring.Sound := sound_ofHistory virtualNodes changes
  constructor
  · intro unit hget
    obtain ⟨member, hmember, -⟩ := get?_eq_some_iff.1 hget
    have herase := erase?_eq_some_iff.2 ⟨member, hmember, rfl⟩
    exact ⟨leavesOut_of_inactive hs, _, herase, fun _ hactive =>
      leavesOut_of_erase? hs hget herase hactive⟩
  · intro unit hfree hvacant
    have hinsert := insert?_eq_some_iff.2 ⟨hfree, rfl⟩
    exact ⟨_, hinsert, leavesOut_of_insert? hs hinsert hvacant⟩

/-- The removal of a unit and the admission of another one, while a third one is switched off. -/
theorem replicaSet_leavesOut_of_three :
    let ring := ofHistory 2 [.add ⟨"a", 0⟩, .add ⟨"b", 1⟩, .add ⟨"c", 2⟩]
    let active := fun unit : UnitRef => unit.id != "a"
    (∃ ring', ring.erase? "b" = some ring' ∧
      LeavesOut ⟨"b", 1⟩ (ring.replicaSet active "x") (ring'.replicaSet active "x")) ∧
    (∃ ring', ring.insert? ⟨"d", 3⟩ = some ring' ∧
      LeavesOut ⟨"d", 3⟩ (ring'.replicaSet active "x") (ring.replicaSet active "x")) := by
  intro ring active
  have h := replicaSet_leavesOut 2 [.add ⟨"a", 0⟩, .add ⟨"b", 1⟩, .add ⟨"c", 2⟩] active "x"
  obtain ⟨-, ring', herase, hleaves⟩ := h.1 ⟨"b", 1⟩ (by decide +kernel)
  refine ⟨⟨ring', herase, hleaves active fun _ _ => rfl⟩, ?_⟩
  exact h.2 ⟨"d", 3⟩ (by decide +kernel) (vacant_iff.2 (by decide +kernel))

end QuorumRing.Ring
