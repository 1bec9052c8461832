import QuorumRing.Proofs.Ring.Ownership
import QuorumRing.Ring.Placement

/-!
# The order of closeness

The walk from a key meets the units of a ring in some order (`Ring.order`). In a sound ring a
replica set is made of the first active units in it (`Ring.replicaSet_eq`), and a change of
membership leaves a unit out of the order or adds it, without moving any other unit
(`Ring.order_erase?`, `Ring.order_insert?`). So a replica set after such a change differs from the
one before by at most one unit in each direction, which `Ring.take_of_present` spells out.
-/

namespace QuorumRing.Ring

variable {ring ring' : Ring} {unit : UnitRef} {active : UnitRef → Bool} {key : String} {r : Nat}

/-! ## The first occurrences in a list -/

/-- The units of a list without those whose id occurred before. -/
def distinct : List UnitRef → List UnitRef
  | [] => []
  | unit :: units => unit :: (distinct units).filter (·.id != unit.id)

theorem mem_of_mem_distinct {units : List UnitRef} (h : unit ∈ distinct units) : unit ∈ units := by
  induction units with
  | nil => exact h
  | cons first units ih =>
    rcases List.mem_cons.1 h with rfl | h
    · exact List.mem_cons_self
    · exact List.mem_cons_of_mem _ (ih (List.mem_filter.1 h).1)

/-- The ids of a list all occur in what is left of it. -/
theorem exists_mem_distinct {units : List UnitRef} (h : unit ∈ units) :
    ∃ u ∈ distinct units, u.id = unit.id := by
  induction units with
  | nil => simp at h
  | cons first units ih =>
    by_cases hid : first.id = unit.id
    · exact ⟨first, List.mem_cons_self, hid⟩
    · have htail : unit ∈ units := by
        rcases List.mem_cons.1 h with rfl | h
        · exact absurd rfl hid
        · exact h
      obtain ⟨u, hu, huid⟩ := ih htail
      refine ⟨u, List.mem_cons_of_mem _ (List.mem_filter.2 ⟨hu, ?_⟩), huid⟩
      simpa [huid] using Ne.symm hid

theorem distinct_pairwise (units : List UnitRef) :
    (distinct units).Pairwise fun u v => u.id ≠ v.id := by
  induction units with
  | nil => exact List.Pairwise.nil
  | cons first units ih =>
    refine List.pairwise_cons.2 ⟨fun u hu => ?_, ih.filter _⟩
    have := (List.mem_filter.1 hu).2
    exact Ne.symm (by simpa using this)

/-- Units of one id are either all left out by a test or all kept: then it does not matter whether
the test comes before the repetitions are dropped or after it. -/
theorem distinct_filter {test : UnitRef → Bool} {units : List UnitRef}
    (h : ∀ u ∈ units, ∀ v ∈ units, u.id = v.id → test u = test v) :
    distinct (units.filter test) = (distinct units).filter test := by
  induction units with
  | nil => rfl
  | cons first units ih =>
    have htail := ih fun u hu v hv => h u (List.mem_cons_of_mem _ hu) v (List.mem_cons_of_mem _ hv)
    by_cases hfirst : test first = true
    · rw [List.filter_cons_of_pos hfirst, distinct, distinct, List.filter_cons_of_pos hfirst, htail,
        List.filter_comm]
    · rw [List.filter_cons_of_neg hfirst, distinct, List.filter_cons_of_neg hfirst, htail,
        List.filter_filter]
      refine List.filter_congr fun u hu => ?_
      by_cases hid : u.id = first.id
      · have := h u (List.mem_cons_of_mem _ (mem_of_mem_distinct hu)) first List.mem_cons_self hid
        simp [this, hfirst]
      · simp [hid]

/-- The choice of replicas takes the first active units, each id once. -/
theorem choose_eq (active : UnitRef → Bool) (r : Nat) (seen : List String) (units : List UnitRef) :
    choose active r seen units =
      ((distinct (units.filter active)).filter fun u => !seen.contains u.id).take r := by
  fun_induction choose active r seen units with
  | case1 => simp
  | case2 => simp [distinct]
  | case3 r seen unit rest hpick ih =>
    obtain ⟨hactive, hnew⟩ := Bool.and_eq_true_iff.1 hpick
    rw [ih, List.filter_cons_of_pos hactive, distinct, List.filter_cons, if_pos hnew,
      List.take_succ_cons, List.filter_filter]
    congr 2
    refine List.filter_congr fun u _ => ?_
    by_cases hid : u.id = unit.id <;> simp [hid]
  | case4 r seen unit rest hskip ih =>
    rw [ih]
    by_cases hactive : active unit = true
    · have hseen : seen.contains unit.id = true := by simpa [hactive] using hskip
      rw [List.filter_cons_of_pos hactive, distinct, List.filter_cons, hseen, if_neg (by simp),
        List.filter_filter]
      congr 1
      refine List.filter_congr fun u _ => ?_
      by_cases hid : u.id = unit.id
      · rw [hid, hseen]
        rfl
      · simp [hid]
    · rw [List.filter_cons_of_neg hactive]

/-! ## The walk -/

theorem mem_walk {start p : Position} :
    (p, unit) ∈ ring.walk start ↔ ring.slots[p]? = some unit := by
  simp only [walk, List.mem_append, List.mem_filter,
    ← Std.ExtTreeMap.mem_toList_iff_getElem?_eq_some]
  constructor
  · rintro (h | h)
    · exact h.1
    · exact h.1
  · intro h
    by_cases hle : start ≤ p
    · exact Or.inl ⟨h, by simpa using hle⟩
    · exact Or.inr ⟨h, by simpa using UInt32.not_le.1 hle⟩

/-- Vacating positions takes them out of the walk. -/
theorem walk_filter {test : Position → UnitRef → Bool} (h : ring'.slots = ring.slots.filter test)
    (start : Position) : ring'.walk start = (ring.walk start).filter fun s => test s.1 s.2 := by
  simp only [walk, h, Std.ExtTreeMap.toList_filter, List.filter_append, List.filter_filter]
  congr 1 <;> exact List.filter_congr fun s _ => Bool.and_comm _ _

/-! ## The order of closeness -/

/-- The units that own a position, in the order in which the walk from a key meets them. -/
def order (ring : Ring) (key : String) : List UnitRef :=
  distinct ((ring.walk (Position.ofString key)).map (·.2))

theorem mem_owners {start : Position} :
    unit ∈ (ring.walk start).map (·.2) ↔ ∃ p : Position, ring.slots[p]? = some unit := by
  simp only [List.mem_map, Prod.exists, mem_walk]
  constructor
  · rintro ⟨p, u, h, rfl⟩
    exact ⟨p, h⟩
  · rintro ⟨p, h⟩
    exact ⟨p, unit, h, rfl⟩

theorem order_pairwise (ring : Ring) (key : String) :
    (ring.order key).Pairwise fun u v => u.id ≠ v.id :=
  distinct_pairwise _

theorem Sound.owner_unique (hs : ring.Sound) {u v : UnitRef} {p q : Position}
    (hu : ring.slots[p]? = some u) (hv : ring.slots[q]? = some v) (hid : u.id = v.id) : u = v := by
  have hget := hs.owner_registered hu
  rw [hid, hs.owner_registered hv] at hget
  exact (Option.some.inj hget).symm

theorem mem_order (hs : ring.Sound) :
    unit ∈ ring.order key ↔ ∃ p : Position, ring.slots[p]? = some unit := by
  rw [← @mem_owners ring unit (Position.ofString key)]
  refine ⟨mem_of_mem_distinct, fun h => ?_⟩
  obtain ⟨u, hu, hid⟩ := exists_mem_distinct h
  obtain ⟨p, hp⟩ := mem_owners.1 (mem_of_mem_distinct hu)
  obtain ⟨q, hq⟩ := mem_owners.1 h
  rw [← hs.owner_unique hp hq hid]
  exact hu

theorem get?_of_mem_order (hs : ring.Sound) (h : unit ∈ ring.order key) :
    ring.get? unit.id = some unit := by
  obtain ⟨p, hp⟩ := (mem_order hs).1 h
  exact hs.owner_registered hp

/-- A replica set is made of the closest active units. -/
theorem replicaSet_eq (hs : ring.Sound) (active : UnitRef → Bool) (key : String) (r : Nat) :
    ring.replicaSet active key r = ((ring.order key).filter active).take r := by
  rw [replicaSet, choose_eq, order, distinct_filter]
  · simp
  · intro u hu v hv hid
    obtain ⟨p, hp⟩ := mem_owners.1 hu
    obtain ⟨q, hq⟩ := mem_owners.1 hv
    rw [hs.owner_unique hp hq hid]

/-- Leaving out the positions of an id leaves out its unit. -/
theorem order_of_slots {id : String}
    (h : ring'.slots = ring.slots.filter fun _ u => u.id != id) (key : String) :
    ring'.order key = (ring.order key).filter (·.id != id) := by
  have hcommute : distinct (((ring.walk (Position.ofString key)).map (·.2)).filter (·.id != id)) =
      (distinct ((ring.walk (Position.ofString key)).map (·.2))).filter (·.id != id) :=
    distinct_filter fun u _ v _ hid => by rw [hid]
  unfold order
  rw [walk_filter h, ← hcommute, List.filter_map]
  rfl

theorem order_erase? {id : String} (hs : ring.Sound) (h : ring.erase? id = some ring')
    (key : String) : ring'.order key = (ring.order key).filter (·.id != id) :=
  order_of_slots (slots_erase? hs h) key

theorem order_insert? (hs : ring.Sound) (h : ring.insert? unit = some ring')
    (hvacant : ∀ p ∈ ring.labelPositions unit.id, ring.slots[p]? = none) (key : String) :
    ring.order key = (ring'.order key).filter (·.id != unit.id) :=
  order_of_slots (slots_insert? hs h hvacant) key

/-! ## Undisputed rings -/

/-- The units that are met are those that are registered, unless there are no virtual nodes. -/
theorem Undisputed.mem_order (hu : ring.Undisputed) (hs : ring.Sound) (hv : 0 < ring.virtualNodes) :
    unit ∈ ring.order key ↔ ring.get? unit.id = some unit := by
  refine ⟨get?_of_mem_order hs, fun hget => ?_⟩
  exact (Ring.mem_order hs).2 ⟨_, hu _ _ hget _ (mem_labelPositions.2 ⟨0, hv, rfl⟩)⟩

/-- A key has as many replicas as it should have, or else all active units are its replicas. -/
theorem length_replicaSet (hs : ring.Sound) (hu : ring.Undisputed) (hv : 0 < ring.virtualNodes)
    (active : UnitRef → Bool) (key : String) (r : Nat) :
    (ring.replicaSet active key r).length = min r (ring.units.filter active).length := by
  have hperm : ((ring.order key).filter active).Perm (ring.units.filter active) := by
    refine (List.perm_ext_iff_of_nodup ?_ ?_).2 fun unit => ?_
    · exact (nodup_of_pairwise (order_pairwise ring key)).filter _
    · exact (nodup_of_pairwise (units_pairwise hs)).filter _
    · rw [List.mem_filter, List.mem_filter, hu.mem_order hs hv, mem_units hs]
  rw [replicaSet_eq hs, List.length_take, hperm.length_eq]

/-! ## What one change does to a replica set -/

section LeavingOut

variable {test : UnitRef → Bool} {units : List UnitRef}

/-- Of units with different marks at most one has a given mark. -/
theorem pairwise_ne_or_ne {α : Type} [DecidableEq α] {mark : UnitRef → α}
    (h : units.Pairwise fun u v => mark u ≠ mark v) (a : α) :
    units.Pairwise fun u v => (mark u != a) = true ∨ (mark v != a) = true := by
  refine h.imp fun {u v} hne => ?_
  by_cases hu : mark u = a
  · exact Or.inr (bne_iff_ne.2 fun hv => hne (hu.trans hv.symm))
  · exact Or.inl (bne_iff_ne.2 hu)

/-- If at most one unit of a ranking fails a test, so many that pass are selected by selecting one
more, leaving out the one that fails, and cutting. -/
theorem take_filter_of_pairwise (h : units.Pairwise fun u v => test u = true ∨ test v = true)
    (r : Nat) : (units.filter test).take r = ((units.take (r + 1)).filter test).take r := by
  induction units generalizing r with
  | nil => simp
  | cons first rest ih =>
    obtain ⟨hfirst, hrest⟩ := List.pairwise_cons.1 h
    rw [List.take_succ_cons, List.filter_cons, List.filter_cons]
    by_cases htest : test first = true
    · rw [if_pos htest, if_pos htest]
      cases r with
      | zero => rfl
      | succ r => rw [List.take_succ_cons, List.take_succ_cons, ih hrest]
    · -- the first one fails, so that all others pass and move up by one place
      have hpass : ∀ v ∈ rest, test v = true := fun v hv => (hfirst v hv).resolve_left htest
      have htake := List.filter_eq_self.2 fun v hv => hpass v (List.mem_of_mem_take (i := r) hv)
      rw [if_neg htest, if_neg htest, List.filter_eq_self.2 hpass, htake, List.take_take,
        Nat.min_self]

/-- Those that are selected anyway keep their places, and at most one unit follows behind them. -/
theorem exists_next_of_pairwise (h : units.Pairwise fun u v => test u = true ∨ test v = true)
    (r : Nat) : ∃ next : Option UnitRef,
      (units.filter test).take r = (units.take r).filter test ++ next.toList := by
  induction units generalizing r with
  | nil => exact ⟨none, by simp⟩
  | cons first rest ih =>
    obtain ⟨hfirst, hrest⟩ := List.pairwise_cons.1 h
    cases r with
    | zero => exact ⟨none, by simp⟩
    | succ r =>
      rw [List.take_succ_cons, List.filter_cons, List.filter_cons]
      by_cases htest : test first = true
      · obtain ⟨next, hnext⟩ := ih hrest r
        refine ⟨next, ?_⟩
        rw [if_pos htest, if_pos htest, List.take_succ_cons, hnext, List.cons_append]
      · have hpass : ∀ v ∈ rest, test v = true := fun v hv => (hfirst v hv).resolve_left htest
        have htake := List.filter_eq_self.2 fun v hv => hpass v (List.mem_of_mem_take (i := r) hv)
        refine ⟨rest[r]?, ?_⟩
        rw [if_neg htest, if_neg htest, List.filter_eq_self.2 hpass, htake, List.take_add_one]

end LeavingOut

/-- A unit that is not among the first ones may be left out without being missed. -/
theorem take_of_absent {units : List UnitRef} {id : String} (h : ∀ u ∈ units.take r, u.id ≠ id) :
    (units.filter (·.id != id)).take r = units.take r := by
  have hkeep : (units.take r).filter (·.id != id) = units.take r :=
    List.filter_eq_self.2 fun u hu => by simpa using h u hu
  have hsplit : units.filter (·.id != id) = units.take r ++ (units.drop r).filter (·.id != id) := by
    rw [← hkeep, ← List.filter_append, List.take_append_drop]
  rw [hsplit, List.take_append]
  by_cases hlen : r ≤ units.length
  · simp [Nat.min_eq_left hlen]
  · have hnone : units.drop r = [] := List.drop_eq_nil_of_le (by omega)
    simp [hnone]

/-- If one of the first `r` units is left out, the others stay in place and at most one unit follows
behind them. -/
theorem take_of_present {units : List UnitRef} (hp : units.Pairwise fun u v => u.id ≠ v.id)
    (h : unit ∈ units.take r) :
    ∃ (front back : List UnitRef) (next : Option UnitRef), units.take r = front ++ unit :: back ∧
      (units.filter (·.id != unit.id)).take r = front ++ back ++ next.toList := by
  obtain ⟨front, back, hfront⟩ := List.append_of_mem h
  obtain ⟨next, hnext⟩ := exists_next_of_pairwise (pairwise_ne_or_ne hp unit.id) r
  -- nobody else in the selection has the id of the unit
  have hothers := hp.sublist (List.take_sublist r units)
  rw [hfront] at hothers
  obtain ⟨-, hback, hcross⟩ := List.pairwise_append.1 hothers
  have hkeepfront : front.filter (·.id != unit.id) = front :=
    List.filter_eq_self.2 fun u hu => bne_iff_ne.2 (hcross u hu unit List.mem_cons_self)
  have hkeepback : back.filter (·.id != unit.id) = back :=
    List.filter_eq_self.2 fun u hu => bne_iff_ne.2 (Ne.symm ((List.pairwise_cons.1 hback).1 u hu))
  refine ⟨front, back, next, hfront, ?_⟩
  rw [hnext, hfront, List.filter_append, List.filter_cons_of_neg (by simp), hkeepfront, hkeepback]

end QuorumRing.Ring
