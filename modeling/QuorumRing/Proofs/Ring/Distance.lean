import QuorumRing.Proofs.Ring.Closeness
import QuorumRing.Proofs.Ring.History

/-!
# Closeness as a distance

How close a unit is to a key can be said without a walk: a unit is as far away as the nearest of its
positions, clockwise from the key and around the end of the ring (`Ring.distance`). The active units
that own a position, sorted by this distance, are `Ring.nearest`.

A walk meets the positions by ascending distance (`Ring.walk_pairwise`), so that it meets every unit
at the nearest of its positions first. Hence the order of closeness is the order by distance
(`Ring.nearest_eq`), wherever the walk wraps around and however the positions of the units
alternate.
-/

namespace QuorumRing

namespace Position

variable {start p q : Position}

/-- How far clockwise of `start` a position lies: the difference modulo `2 ^ 32`, since words wrap
around. -/
def clockwise (start p : Position) : Nat := (p - start).toNat

theorem clockwise_of_le (h : start ≤ p) : clockwise start p = p.toNat - start.toNat :=
  UInt32.toNat_sub_of_le p start h

theorem clockwise_of_lt (h : p < start) : clockwise start p = 2 ^ 32 - start.toNat + p.toNat := by
  have hlt := UInt32.lt_iff_toNat_lt.1 h
  have hstart := start.toNat_lt
  rw [clockwise, UInt32.toNat_sub, Nat.mod_eq_of_lt]
  omega

theorem clockwise_inj (h : clockwise start p = clockwise start q) : p = q := by
  have hsub : p - start = q - start := UInt32.toNat_inj.1 h
  simpa using congrArg (· + start) hsub

end Position

namespace Ring

open Position (clockwise clockwise_of_le clockwise_of_lt clockwise_inj)

variable {ring : Ring} {unit : UnitRef} {active : UnitRef → Bool} {key : String} {start : Position}

/-- The distance of a unit: that of the nearest of the positions that it owns. A unit that owns none
is farther away than all others. -/
def distance (ring : Ring) (start : Position) (unit : UnitRef) : Nat :=
  let owned := ring.slots.toList.filter (·.2 = unit)
  (owned.map fun slot => clockwise start slot.1).min?.getD (2 ^ 32)

/-- The units that own a position. -/
def owners (ring : Ring) : List UnitRef := (ring.slots.toList.map (·.2)).dedup

/-- The active units that own a position, by their distance from a key. -/
def nearest (ring : Ring) (active : UnitRef → Bool) (key : String) : List UnitRef :=
  let start := Position.ofString key
  (ring.owners.filter active).mergeSort fun u v => ring.distance start u ≤ ring.distance start v

/-! ## The distance of a unit -/

theorem mem_owned {p : Position} :
    (p, unit) ∈ ring.slots.toList.filter (·.2 = unit) ↔ ring.slots[p]? = some unit := by
  simp [Std.ExtTreeMap.mem_toList_iff_getElem?_eq_some]

theorem distance_le {p : Position} (h : ring.slots[p]? = some unit) :
    ring.distance start unit ≤ clockwise start p :=
  List.min?_getD_le_of_mem (List.mem_map.2 ⟨(p, unit), mem_owned.2 h, rfl⟩)

/-- The distance of an owner is that of one of its positions. -/
theorem exists_at_distance (start : Position) {p : Position} (h : ring.slots[p]? = some unit) :
    ∃ q, ring.slots[q]? = some unit ∧ clockwise start q = ring.distance start unit := by
  unfold distance
  dsimp only
  cases hmin : (List.map (fun slot => clockwise start slot.1)
      (ring.slots.toList.filter (·.2 = unit))).min? with
  | none =>
    have hnil := List.map_eq_nil_iff.1 (List.min?_eq_none_iff.1 hmin)
    exact absurd (hnil ▸ mem_owned.2 h) List.not_mem_nil
  | some least =>
    obtain ⟨⟨q, owner⟩, hq, hleast⟩ := List.mem_map.1 (List.min?_mem hmin)
    obtain rfl : owner = unit := by simpa using (List.mem_filter.1 hq).2
    exact ⟨q, mem_owned.1 hq, hleast⟩

/-- No two owners are at the same distance, for no two positions are. -/
theorem distance_inj {u v : UnitRef} {p q : Position} (hu : ring.slots[p]? = some u)
    (hv : ring.slots[q]? = some v) (h : ring.distance start u = ring.distance start v) : u = v := by
  obtain ⟨p', hp', hpu⟩ := exists_at_distance start hu
  obtain ⟨q', hq', hqv⟩ := exists_at_distance start hv
  have hsame : p' = q' := clockwise_inj (hpu.trans (h.trans hqv.symm))
  rw [hsame, hq'] at hp'
  exact (Option.some.inj hp').symm

theorem mem_owners_iff : unit ∈ ring.owners ↔ ∃ p : Position, ring.slots[p]? = some unit := by
  simp [owners, Std.ExtTreeMap.mem_toList_iff_getElem?_eq_some]

/-! ## The walk and the order by distance -/

/-- A walk meets the positions by ascending distance. -/
theorem walk_pairwise (ring : Ring) (start : Position) :
    (ring.walk start).Pairwise fun s t => clockwise start s.1 < clockwise start t.1 := by
  have hsorted : ring.slots.toList.Pairwise fun s t => s.1.toNat < t.1.toNat :=
    ring.slots.ordered_keys_toList.imp fun h => UInt32.lt_iff_toNat_lt.1 (Std.compare_eq_lt.1 h)
  -- from `start` upwards, then from the lowest position on, which the wrap puts behind the others
  refine List.pairwise_append.2 ⟨?_, ?_, ?_⟩
  · refine (hsorted.filter _).imp_of_mem fun {s t} hs ht hlt => ?_
    have hs : start ≤ s.1 := by simpa using (List.mem_filter.1 hs).2
    have ht : start ≤ t.1 := by simpa using (List.mem_filter.1 ht).2
    have hle := UInt32.le_iff_toNat_le.1 hs
    rw [clockwise_of_le hs, clockwise_of_le ht]
    omega
  · refine (hsorted.filter _).imp_of_mem fun {s t} hs ht hlt => ?_
    have hs : s.1 < start := by simpa using (List.mem_filter.1 hs).2
    have ht : t.1 < start := by simpa using (List.mem_filter.1 ht).2
    rw [clockwise_of_lt hs, clockwise_of_lt ht]
    omega
  · intro s hs t ht
    have hs : start ≤ s.1 := by simpa using (List.mem_filter.1 hs).2
    have ht : t.1 < start := by simpa using (List.mem_filter.1 ht).2
    have hbound := s.1.toNat_lt
    have hle := UInt32.le_iff_toNat_le.1 hs
    rw [clockwise_of_le hs, clockwise_of_lt ht]
    omega

/-- In a list of positions by ascending distance, the first position of a unit comes before all
positions of the units that are met later. -/
theorem distinct_first {distance : Position → Nat} {slots : List (Position × UnitRef)}
    (h : slots.Pairwise fun s t => distance s.1 < distance t.1) :
    (distinct (slots.map (·.2))).Pairwise fun u v =>
      ∃ p, (p, u) ∈ slots ∧ ∀ q, (q, v) ∈ slots → distance p < distance q := by
  induction slots with
  | nil => exact List.Pairwise.nil
  | cons slot slots ih =>
    obtain ⟨hfirst, htail⟩ := List.pairwise_cons.1 h
    -- a unit that is met later does not own the first position
    have hlater : ∀ v ∈ (distinct (slots.map (·.2))).filter (·.id != slot.2.id),
        ∀ q, (q, v) ∈ slot :: slots → (q, v) ∈ slots := by
      intro v hv q hq
      have hid : v.id ≠ slot.2.id := by simpa using (List.mem_filter.1 hv).2
      refine (List.mem_cons.1 hq).resolve_left fun heq => hid ?_
      rw [← heq]
    refine List.pairwise_cons.2 ⟨fun v hv => ?_, ?_⟩
    · exact ⟨slot.1, List.mem_cons_self, fun q hq => hfirst _ (hlater v hv q hq)⟩
    · refine ((ih htail).filter _).imp_of_mem fun {u v} _ hv => ?_
      rintro ⟨p, hp, hbefore⟩
      exact ⟨p, List.mem_cons_of_mem _ hp, fun q hq => hbefore q (hlater v hv q hq)⟩

/-- The order of closeness is strictly ascending in the distance. -/
theorem order_pairwise_distance (hs : ring.Sound) (key : String) :
    (ring.order key).Pairwise fun u v =>
      ring.distance (Position.ofString key) u < ring.distance (Position.ofString key) v := by
  refine (distinct_first (ring.walk_pairwise _)).imp_of_mem fun {u v} _ hv => ?_
  rintro ⟨p, hp, hbefore⟩
  obtain ⟨q, hq⟩ := (mem_order hs).1 hv
  obtain ⟨q', hq', hdistance⟩ := exists_at_distance (Position.ofString key) hq
  calc ring.distance (Position.ofString key) u
      ≤ clockwise (Position.ofString key) p := distance_le (mem_walk.1 hp)
    _ < clockwise (Position.ofString key) q' := hbefore q' (mem_walk.2 hq')
    _ = ring.distance (Position.ofString key) v := hdistance

theorem mem_nearest : unit ∈ ring.nearest active key ↔
    active unit = true ∧ ∃ p : Position, ring.slots[p]? = some unit := by
  rw [nearest, List.mem_mergeSort, List.mem_filter, mem_owners_iff, and_comm]

/-- The active units by distance are the active units in the order of closeness. -/
theorem nearest_eq (hs : ring.Sound) (active : UnitRef → Bool) (key : String) :
    ring.nearest active key = (ring.order key).filter active := by
  have hsorted : (ring.nearest active key).Pairwise fun u v =>
      ring.distance (Position.ofString key) u ≤ ring.distance (Position.ofString key) v := by
    refine List.Pairwise.imp of_decide_eq_true (List.pairwise_mergeSort ?_ ?_ _)
    · intro u v w huv hvw
      simp only [decide_eq_true_eq] at huv hvw ⊢
      omega
    · intro u v
      simp only [Bool.or_eq_true, decide_eq_true_eq]
      omega
  have hordered := ((order_pairwise_distance hs key).filter active).imp fun h => Nat.le_of_lt h
  have hperm : (ring.nearest active key).Perm ((ring.order key).filter active) := by
    refine (List.perm_ext_iff_of_nodup ?_ ?_).2 fun u => ?_
    · exact (List.mergeSort_perm _ _).nodup_iff.2 ((List.nodup_dedup _).filter _)
    · exact (nodup_of_pairwise (order_pairwise ring key)).filter _
    · rw [mem_nearest, List.mem_filter, mem_order hs, and_comm]
  refine hperm.eq_of_pairwise (fun u v hu hv hle hge => ?_) hsorted hordered
  obtain ⟨-, p, hp⟩ := mem_nearest.1 hu
  obtain ⟨q, hq⟩ := (mem_order hs).1 (List.mem_filter.1 hv).1
  exact distance_inj hp hq (Nat.le_antisymm hle hge)

/-! ## Replica sets by distance -/

/-- After every history a replica set is made of the nearest active units, the nearest first. All of
them are registered, each occurs once, and there are fewer than asked for only if no more units own
a position. If the ring is consistent and there are virtual nodes, every active member is among
those to choose from. -/
theorem replicaSet_eq_take_nearest (virtualNodes : Nat) (changes : List Change)
    (active : UnitRef → Bool) (key : String) (r : Nat) :
    let ring := ofHistory virtualNodes changes
    let start := Position.ofString key
    ring.replicaSet active key r = (ring.nearest active key).take r ∧
      (ring.nearest active key).Pairwise
        (fun u v => ring.distance start u < ring.distance start v) ∧
      (∀ unit, unit ∈ ring.nearest active key ↔
        active unit = true ∧ ∃ p : Position, ring.slots[p]? = some unit) ∧
      (∀ unit ∈ ring.replicaSet active key r,
        active unit = true ∧ ring.get? unit.id = some unit) ∧
      ((ring.replicaSet active key r).map (·.id)).Nodup ∧
      (ring.replicaSet active key r).length = min r (ring.nearest active key).length ∧
      (ring.isConsistent = true → 0 < virtualNodes →
        (ring.replicaSet active key r).length = min r (ring.units.filter active).length) := by
  intro ring start
  have hs : ring.Sound := sound_ofHistory virtualNodes changes
  have hchosen : ring.replicaSet active key r = (ring.nearest active key).take r := by
    rw [nearest_eq hs, replicaSet_eq hs]
  refine ⟨hchosen, ?_, fun unit => mem_nearest, fun unit hunit => ?_, ?_, ?_, ?_⟩
  · rw [nearest_eq hs]
    exact (order_pairwise_distance hs key).filter active
  · rw [hchosen] at hunit
    obtain ⟨hactive, p, hp⟩ := mem_nearest.1 (List.mem_of_mem_take hunit)
    exact ⟨hactive, hs.owner_registered hp⟩
  · rw [hchosen, nearest_eq hs]
    have hids := ((order_pairwise ring key).filter active).sublist (List.take_sublist r _)
    exact List.pairwise_map.2 hids
  · rw [hchosen, List.length_take]
  · intro hconsistent hnodes
    rw [← virtualNodes_ofHistory virtualNodes changes] at hnodes
    exact length_replicaSet hs (hs.undisputed hconsistent) hnodes active key r

/-- A ring with a unit that was admitted again and one that is switched off. -/
theorem replicaSet_eq_take_nearest_readmitted :
    let ring := ofHistory 2
      [.add ⟨"a", 0⟩, .add ⟨"b", 1⟩, .remove "a", .add ⟨"c", 2⟩, .add ⟨"a", 3⟩]
    let active := fun unit : UnitRef => unit.id != "b"
    ring.isConsistent = true ∧ ring.replicaSet active "x" 3 = (ring.nearest active "x").take 3 ∧
      (ring.replicaSet active "x" 3).length = min 3 (ring.units.filter active).length := by
  intro ring active
  have h := replicaSet_eq_take_nearest 2
    [.add ⟨"a", 0⟩, .add ⟨"b", 1⟩, .remove "a", .add ⟨"c", 2⟩, .add ⟨"a", 3⟩] active "x" 3
  have hconsistent : ring.isConsistent = true := by decide +kernel
  exact ⟨hconsistent, h.1, h.2.2.2.2.2.2 hconsistent (by decide)⟩

/-- Where labels collide, a unit can be active and still no replica of any key. -/
example : (ofHistory 1 [.add ⟨"node71237", 0⟩, .add ⟨"node71347", 1⟩]).replicaSet (fun _ => true)
    "x" 2 = [⟨"node71347", 1⟩] := by
  decide +kernel

end Ring

end QuorumRing
