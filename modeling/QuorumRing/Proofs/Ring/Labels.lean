import QuorumRing.Proofs.Ring.Ownership
import QuorumRing.Proofs.Text.Numerals

/-!
# Labels that do not meet

A label determines its unit and its index. So if different labels of some ids have different
positions (`LabelsApart`), a ring whose members all have such ids stays consistent, whoever of them
is admitted or removed, and the positions of an id that is not registered are vacant (`Ring.Apart`).
-/

namespace QuorumRing

/-- A label determines its unit and its index: no digit is a colon, so that the last colon is the
one between the two. -/
theorem virtualNodeLabel_inj {a b : String} {i j : Nat}
    (h : virtualNodeLabel a i = virtualNodeLabel b j) : a = b ∧ i = j := by
  have hdigits : ∀ n : Nat, ':' ∉ (toString n).toList := notMem_decimal rfl
  have hchars :
      a.toList ++ ':' :: (toString i).toList = b.toList ++ ':' :: (toString j).toList := by
    have := congrArg String.toList h
    simpa [virtualNodeLabel] using this
  obtain ⟨hid, hindex⟩ := append_cons_inj_of_notMem_back (hdigits i) (hdigits j) hchars
  exact ⟨String.toList_inj.1 hid, Nat.repr_injective (String.toList_inj.1 hindex)⟩

/-- Different labels of the ids, for so many virtual nodes each, have different positions. -/
def LabelsApart (virtualNodes : Nat) (ids : List String) : Prop :=
  ∀ a ∈ ids, ∀ b ∈ ids, ∀ i < virtualNodes, ∀ j < virtualNodes,
    virtualNodeLabel a i ≠ virtualNodeLabel b j →
      Position.ofString (virtualNodeLabel a i) ≠ Position.ofString (virtualNodeLabel b j)

instance (virtualNodes : Nat) (ids : List String) : Decidable (LabelsApart virtualNodes ids) :=
  inferInstanceAs (Decidable (∀ a ∈ ids, ∀ b ∈ ids, ∀ i < virtualNodes, ∀ j < virtualNodes,
    virtualNodeLabel a i ≠ virtualNodeLabel b j →
      Position.ofString (virtualNodeLabel a i) ≠ Position.ofString (virtualNodeLabel b j)))

namespace Ring

variable {ring ring' : Ring} {ids : List String} {id : String} {unit : UnitRef}

/-- A sound ring whose members have ids of the list, whose labels do not meet. -/
structure Apart (ids : List String) (ring : Ring) : Prop where
  /-- The books are in order. -/
  sound : ring.Sound
  /-- Nobody's positions are disputed. -/
  undisputed : ring.Undisputed
  /-- The labels of the ids do not meet. -/
  labels : LabelsApart ring.virtualNodes ids
  /-- The members have ids of the list. -/
  ids : ∀ id ∈ ring.members, id ∈ ids

theorem apart_empty {virtualNodes : Nat} (h : LabelsApart virtualNodes ids) :
    Apart ids { virtualNodes } where
  sound := sound_empty virtualNodes
  undisputed := undisputed_empty virtualNodes
  labels := h
  ids id hmem := by simp at hmem

namespace Apart

variable (h : ring.Apart ids)
include h

/-- The positions of an id are vacant as long as it is not registered. -/
theorem vacant (hid : id ∈ ids) (hfree : id ∉ ring.members) :
    ∀ p ∈ ring.labelPositions id, ring.slots[p]? = none := by
  intro p hp
  by_contra howned
  obtain ⟨u, hu⟩ := Option.ne_none_iff_exists'.1 howned
  have hmember : u.id ∈ ring.members := by
    by_contra hnot
    rw [← get?_eq_none_iff, h.sound.owner_registered hu] at hnot
    simp at hnot
  obtain ⟨i, hi, hlabel⟩ := mem_labelPositions.1 hp
  obtain ⟨j, hj, hlabel'⟩ := mem_labelPositions.1 (h.sound.owner_label hu)
  refine h.labels id hid u.id (h.ids _ hmember) i hi j hj (fun hsame => ?_)
    (hlabel.trans hlabel'.symm)
  rw [(virtualNodeLabel_inj hsame).1] at hfree
  exact hfree hmember

theorem insert? (hinsert : ring.insert? unit = some ring') (hid : unit.id ∈ ids) :
    ring'.Apart ids where
  sound := h.sound.insert? hinsert
  undisputed :=
    h.undisputed.insert? hinsert (h.vacant hid (insert?_eq_some_iff.1 hinsert).1)
  labels := by
    rw [virtualNodes_insert? hinsert]
    exact h.labels
  ids id hmem := by
    rcases (mem_members_insert? hinsert).1 hmem with rfl | hmem
    · exact hid
    · exact h.ids id hmem

theorem erase? (herase : ring.erase? id = some ring') : ring'.Apart ids where
  sound := h.sound.erase? herase
  undisputed := h.undisputed.erase? h.sound herase
  labels := by
    rw [virtualNodes_erase? herase]
    exact h.labels
  ids other hmem := h.ids other ((mem_members_erase? herase).1 hmem).2

/-- The labels of an id have as many positions as there are of them. -/
theorem size_labelPositions (hid : id ∈ ids) :
    (ring.labelPositions id).size = ring.virtualNodes := by
  have hdistinct : (virtualNodePositions id ring.virtualNodes).Pairwise (· ≠ ·) := by
    refine List.pairwise_map.2 (List.nodup_range.imp_of_mem fun {i j} hi hj hne => ?_)
    refine h.labels id hid id hid i (List.mem_range.1 hi) j (List.mem_range.1 hj) fun hsame => ?_
    exact hne (virtualNodeLabel_inj hsame).2
  rw [labelPositions, Std.ExtTreeSet.size_ofList]
  · rw [virtualNodePositions, List.length_map, List.length_range]
  · exact hdistinct.imp fun hne heq => hne (Std.LawfulEqOrd.eq_of_compare heq)

theorem isConsistent : ring.isConsistent = true := by
  refine isConsistent_iff.2 fun id m hm => ?_
  have hmember : id ∈ ring.members := Std.ExtTreeMap.mem_iff_isSome_getElem?.2 (by rw [hm]; rfl)
  rw [h.sound.member_positions hm]
  refine ⟨h.size_labelPositions (h.ids id hmember), fun p hp => ?_⟩
  rw [h.undisputed id m.unit (get?_eq_some_iff.2 ⟨m, hm, rfl⟩) p hp]
  simp [h.sound.member_id hm]

end Apart

end Ring

end QuorumRing
