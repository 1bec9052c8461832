import QuorumRing.Proofs.Ring.Closeness
import QuorumRing.Proofs.Ring.History

/-!
# What a lookup depends on

Of a walk, a lookup sees the positions, the ids of their owners and which of the owners are active
(`Ring.sight`), and answers accordingly: two walks that look alike give the same closest unit, the
same replica set and the same trace, up to the serial numbers of the units.

In a ring in which nobody's positions are disputed, what is seen at a position follows from the
liveness of the members alone. So two histories that lead to the same members with the same liveness
are not told apart by any lookup, as long as no labels collide. Where labels do collide, the history
matters, in the way that `Ring.LastClaim` says.
-/

namespace QuorumRing.Ring

variable {ring ring' : Ring} {active active' : UnitRef → Bool}

/-! ## Lookups along a walk -/

/-- What a lookup sees of a walk. -/
def sight (active : UnitRef → Bool) (walk : List (Position × UnitRef)) :
    List (Position × String × Bool) :=
  walk.map fun slot => (slot.1, slot.2.id, active slot.2)

/-- What looks like a walk that is not empty is not empty either: it begins and goes on alike. -/
theorem sight_cons_eq {slot : Position × UnitRef} {walk walk' : List (Position × UnitRef)}
    (h : sight active (slot :: walk) = sight active' walk') :
    ∃ slot' rest, walk' = slot' :: rest ∧ slot'.1 = slot.1 ∧ slot'.2.id = slot.2.id ∧
      active' slot'.2 = active slot.2 ∧ sight active walk = sight active' rest := by
  cases walk' with
  | nil => simp [sight] at h
  | cons slot' rest =>
    obtain ⟨hslot, hrest⟩ := List.cons.inj h
    obtain ⟨hposition, hid, hactive⟩ : slot.1 = slot'.1 ∧ slot.2.id = slot'.2.id ∧
        active slot.2 = active' slot'.2 := by simpa using hslot
    exact ⟨slot', rest, rfl, hposition.symm, hid.symm, hactive.symm, hrest⟩

theorem sight_nil_eq {walk : List (Position × UnitRef)} (h : sight active [] = sight active' walk) :
    walk = [] :=
  List.map_eq_nil_iff.1 h.symm

theorem find?_congr {walk walk' : List (Position × UnitRef)}
    (h : sight active walk = sight active' walk') :
    ((walk.map (·.2)).find? active).map (·.id) = ((walk'.map (·.2)).find? active').map (·.id) := by
  induction walk generalizing walk' with
  | nil => rw [sight_nil_eq h]; rfl
  | cons slot walk ih =>
    obtain ⟨slot', rest, rfl, -, hid, hactive, hrest⟩ := sight_cons_eq h
    rw [List.map_cons, List.map_cons, List.find?_cons, List.find?_cons, hactive]
    cases active slot.2 with
    | true => exact congrArg some hid.symm
    | false => exact ih hrest

theorem choose_congr {walk walk' : List (Position × UnitRef)}
    (h : sight active walk = sight active' walk') (r : Nat) (seen : List String) :
    (choose active r seen (walk.map (·.2))).map (·.id) =
      (choose active' r seen (walk'.map (·.2))).map (·.id) := by
  induction walk generalizing walk' r seen with
  | nil =>
    rw [sight_nil_eq h]
    cases r <;> rfl
  | cons slot walk ih =>
    obtain ⟨slot', rest, rfl, -, hid, hactive, hrest⟩ := sight_cons_eq h
    cases r with
    | zero => rfl
    | succ r =>
      rw [List.map_cons, List.map_cons, choose, choose, hactive, hid]
      split
      · rw [List.map_cons, List.map_cons, hid, ih hrest]
      · exact ih hrest (r + 1) seen

theorem follow_congr {walk walk' : List (Position × UnitRef)}
    (h : sight active walk = sight active' walk') (r : Nat) (selected : List String) :
    follow active r selected walk = follow active' r selected walk' := by
  induction walk generalizing walk' selected with
  | nil => rw [sight_nil_eq h]; rfl
  | cons slot walk ih =>
    obtain ⟨⟨position, unit⟩, rest, rfl, hposition, hid, hactive, hrest⟩ := sight_cons_eq h
    obtain ⟨position', unit'⟩ := slot
    obtain rfl : position = position' := hposition
    dsimp only at hid hactive
    simp only [follow, hid, hactive, ih hrest]

/-! ## Undisputed rings -/

/-- Who is seen at a position of an undisputed ring: the member that has a label there. -/
theorem seen_iff (hs : ring.Sound) (hu : ring.Undisputed) {p : Position} {id : String} {on : Bool} :
    ring.slots[p]?.map (fun u => (u.id, active u)) = some (id, on) ↔
      p ∈ ring.labelPositions id ∧ (ring.get? id).map active = some on := by
  simp only [Option.map_eq_some_iff, Prod.mk.injEq]
  constructor
  · rintro ⟨unit, hslot, rfl, hactive⟩
    exact ⟨hs.owner_label hslot, unit, hs.owner_registered hslot, hactive⟩
  · rintro ⟨hlabel, unit, hget, hactive⟩
    exact ⟨unit, hu id unit hget p hlabel, hs.id_of_get? hget, hactive⟩

theorem map_get?_eq_some_iff (hs : ring.Sound) {id : String} {on : Bool} :
    (ring.get? id).map active = some on ↔ (id, on) ∈ ring.units.map fun u => (u.id, active u) := by
  simp only [Option.map_eq_some_iff, List.mem_map, Prod.mk.injEq, mem_units hs]
  constructor
  · rintro ⟨unit, hget, hactive⟩
    have hid := hs.id_of_get? hget
    exact ⟨unit, by rw [hid, hget], hid, hactive⟩
  · rintro ⟨unit, hget, rfl, hactive⟩
    exact ⟨unit, hget, hactive⟩

/-- If the members and their liveness are the same, the walks look alike. -/
theorem sight_walk_congr (hs : ring.Sound) (hu : ring.Undisputed) (hs' : ring'.Sound)
    (hu' : ring'.Undisputed) (hv : ring.virtualNodes = ring'.virtualNodes)
    (hsame : ring.units.map (fun u => (u.id, active u)) =
      ring'.units.map (fun u => (u.id, active' u))) (start : Position) :
    sight active (ring.walk start) = sight active' (ring'.walk start) := by
  have hlabels : ∀ id, ring.labelPositions id = ring'.labelPositions id := fun id => by
    simp [labelPositions, hv]
  have hseen : ring.slots.map (fun _ u => (u.id, active u)) =
      ring'.slots.map (fun _ u => (u.id, active' u)) := by
    refine Std.ExtTreeMap.ext_getElem? fun p => ?_
    rw [Std.ExtTreeMap.getElem?_map, Std.ExtTreeMap.getElem?_map]
    refine Option.ext fun seen => ?_
    obtain ⟨id, on⟩ := seen
    rw [seen_iff hs hu, seen_iff hs' hu', hlabels, map_get?_eq_some_iff hs,
      map_get?_eq_some_iff hs', hsame]
  have hlist := congrArg Std.ExtTreeMap.toList hseen
  rw [Std.ExtTreeMap.toList_map, Std.ExtTreeMap.toList_map] at hlist
  -- either part of a walk is told by the positions, which are part of what is seen
  have hpart : ∀ test : Position → Bool, sight active (ring.slots.toList.filter (test ·.1)) =
      sight active' (ring'.slots.toList.filter (test ·.1)) := by
    intro test
    have hfilter := congrArg (List.filter (test ·.1)) hlist
    rw [List.filter_map, List.filter_map] at hfilter
    exact hfilter
  unfold sight at hpart ⊢
  rw [walk, walk, List.map_append, List.map_append, hpart fun p => decide (start ≤ p),
    hpart fun p => decide (p < start)]

/-! ## Ownership and lookups after a history -/

/-- A position belongs to the last unit that was admitted with a label there, unless that unit was
removed since, and then to nobody. Whoever owns a position is registered and has it on record, and
what is on record for a member are the positions of its labels. If no labels collide, two histories
that lead to the same members with the same liveness give the same answers to all lookups. -/
theorem ownership_ofHistory (virtualNodes : Nat) (changes : List Change) :
    let ring := ofHistory virtualNodes changes
    (∀ position unit, ring.slots[position]? = some unit ↔
      LastClaim virtualNodes (accepted { virtualNodes } changes) position unit) ∧
    (∀ position unit, ring.slots[position]? = some unit →
      ring.get? unit.id = some unit ∧ position ∈ ring.positionsOf unit.id) ∧
    (∀ id member, ring.members[id]? = some member → ∀ position,
      position ∈ member.positions ↔ position ∈ virtualNodePositions id virtualNodes) ∧
    ∀ changes', LabelsApart virtualNodes ((changes ++ changes').flatMap Change.admits) →
      let ring' := ofHistory virtualNodes changes'
      ∀ active active', ring.units.map (fun unit => (unit.id, active unit)) =
          ring'.units.map (fun unit => (unit.id, active' unit)) →
        ∀ key r, (ring.locate active key).map (·.id) = (ring'.locate active' key).map (·.id) ∧
          (ring.replicaSet active key r).map (·.id) =
            (ring'.replicaSet active' key r).map (·.id) ∧
          ring.trace active key r = ring'.trace active' key r := by
  intro ring
  have hs : ring.Sound := sound_ofHistory virtualNodes changes
  have hv : ring.virtualNodes = virtualNodes := virtualNodes_ofHistory virtualNodes changes
  refine ⟨getElem?_slots_ofHistory virtualNodes changes, fun position unit hslot => ?_,
    fun id member hmember position => ?_, ?_⟩
  · have hget := hs.owner_registered hslot
    obtain ⟨member, hmember, -⟩ := get?_eq_some_iff.1 hget
    refine ⟨hget, ?_⟩
    have hposition : position ∈ member.positions := by
      rw [hs.member_positions hmember]
      exact hs.owner_label hslot
    simpa [positionsOf, hmember] using hposition
  · rw [hs.member_positions hmember]
    exact mem_virtualNodePositions hv
  · intro changes' hlabels ring' active active' hsame key r
    rw [List.flatMap_append] at hlabels
    have hapart : ring.Apart _ := apart_ofHistory hlabels (List.subset_append_left _ _)
    have hapart' : ring'.Apart _ := apart_ofHistory hlabels (List.subset_append_right _ _)
    have hnodes : ring.virtualNodes = ring'.virtualNodes :=
      hv.trans (virtualNodes_ofHistory virtualNodes changes').symm
    have hsight := sight_walk_congr hapart.sound hapart.undisputed hapart'.sound hapart'.undisputed
      hnodes hsame (Position.ofString key)
    refine ⟨find?_congr hsight, choose_congr hsight r [], ?_⟩
    simp only [trace, follow_congr hsight]

/-- The positions of the first labels of these two ids coincide: the later unit is not evicted by
the removal of the earlier one. And a unit that is admitted, removed and admitted again is found
where it was. -/
theorem ownership_ofHistory_readmission :
    (ofHistory 1 [.add ⟨"node71237", 0⟩, .add ⟨"node71347", 1⟩,
      .remove "node71237"]).slots[(3588211918 : Position)]? = some ⟨"node71347", 1⟩ ∧
    let changes := [.add ⟨"a", 0⟩, .add ⟨"b", 1⟩, .add ⟨"a", 2⟩]
    let changes' := [.add ⟨"b", 0⟩, .remove "b", .add ⟨"a", 1⟩, .add ⟨"b", 2⟩]
    let ring := ofHistory 2 changes
    let ring' := ofHistory 2 changes'
    let active := fun unit : UnitRef => unit.id != "b"
    LabelsApart 2 ((changes ++ changes').flatMap Change.admits) ∧
      ring.units.map (fun unit => (unit.id, active unit)) =
        ring'.units.map (fun unit => (unit.id, active unit)) ∧
      ∀ key r, (ring.locate active key).map (·.id) = (ring'.locate active key).map (·.id) ∧
        (ring.replicaSet active key r).map (·.id) = (ring'.replicaSet active key r).map (·.id) ∧
        ring.trace active key r = ring'.trace active key r := by
  refine ⟨?_, ?_⟩
  · refine ((ownership_ofHistory 1 _).1 _ _).2
      ⟨[.add ⟨"node71237", 0⟩], [.remove "node71237"], by decide +kernel, by decide +kernel, ?_, ?_⟩
    · simp
    · decide
  · intro changes changes' ring ring' active
    have hlabels : LabelsApart 2 ((changes ++ changes').flatMap Change.admits) := by decide +kernel
    have hsame : ring.units.map (fun unit => (unit.id, active unit)) =
        ring'.units.map (fun unit => (unit.id, active unit)) := by decide +kernel
    exact ⟨hlabels, hsame,
      (ownership_ofHistory 2 changes).2.2.2 changes' hlabels active active hsame⟩

end QuorumRing.Ring
