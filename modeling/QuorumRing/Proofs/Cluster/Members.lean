import QuorumRing.Proofs.Cluster.Acts

/-!
# Admissions and removals

Only an admission or a removal changes who is a member. All other acts leave the ring as it is, and
with it the number of the next unit (`Session.sameMembers_act`). Whether an admission or a removal
is accepted, and the ring that it leaves, depend on these two alone, so that they take the same
course in clusters that differ in their data, in their queues or in being open.
-/

namespace QuorumRing

open Fleet (Work Turn)

/-! ## The size of a ring -/

namespace Ring

variable {ring ring' : Ring} {unit : UnitRef} {id : String}

theorem length_units (ring : Ring) : ring.units.length = ring.members.size := by
  rw [units, List.length_map, Std.ExtTreeMap.length_toList]

theorem length_units_insert? (h : ring.insert? unit = some ring') :
    ring'.units.length = ring.units.length + 1 := by
  obtain ⟨hfree, rfl⟩ := insert?_eq_some_iff.1 h
  rw [length_units, length_units]
  dsimp only
  rw [Std.ExtTreeMap.size_insert, if_neg (mt Std.ExtTreeMap.contains_iff_mem.1 hfree)]

theorem length_units_erase? (h : ring.erase? id = some ring') :
    ring'.units.length + 1 = ring.units.length := by
  obtain ⟨member, hmember, rfl⟩ := erase?_eq_some_iff.1 h
  have hmem : id ∈ ring.members :=
    Std.ExtTreeMap.mem_iff_isSome_getElem?.2 (by rw [hmember, Option.isSome_some])
  have hpos : 0 < ring.members.size := by
    rw [Nat.pos_iff_ne_zero]
    intro hzero
    rw [Std.ExtTreeMap.eq_empty_iff_size_eq_zero.2 hzero] at hmem
    exact Std.ExtTreeMap.not_mem_empty hmem
  rw [length_units, length_units]
  dsimp only
  rw [Std.ExtTreeMap.size_erase, if_pos (Std.ExtTreeMap.contains_iff_mem.2 hmem)]
  omega

theorem mem_units_of_erase? (hs : ring.Sound) (h : ring.erase? id = some ring')
    (hunit : unit ∈ ring'.units) : unit ∈ ring.units := by
  rw [mem_units (hs.erase? h), get?_erase? h] at hunit
  rw [mem_units hs]
  split at hunit
  · simp at hunit
  · exact hunit

theorem contains_eq (ring : Ring) (id : String) : ring.contains id = (ring.get? id).isSome := by
  rw [contains, get?, Option.isSome_map]
  exact Std.ExtTreeMap.contains_eq_isSome_getElem?

end Ring

/-! ## Fleets with the same members -/

namespace Fleet

variable {fleet fleet' : Fleet} {unit : UnitRef} {allowed : String → String → Prop}

/-- The two fleets have the same ring, and have admitted equally many units. -/
structure SameMembers (fleet fleet' : Fleet) : Prop where
  /-- The rings are the same. -/
  ring : fleet'.ring = fleet.ring
  /-- So is the number of the next unit. -/
  admissions : fleet'.pool.admissions = fleet.pool.admissions

namespace SameMembers

theorem refl (fleet : Fleet) : SameMembers fleet fleet := ⟨rfl, rfl⟩

theorem symm (h : SameMembers fleet fleet') : SameMembers fleet' fleet :=
  ⟨h.ring.symm, h.admissions.symm⟩

theorem trans {a b c : Fleet} (h : SameMembers a b) (h' : SameMembers b c) : SameMembers a c :=
  ⟨h'.ring.trans h.ring, h'.admissions.trans h.admissions⟩

theorem units (h : SameMembers fleet fleet') : fleet'.units = fleet.units := by
  rw [Fleet.units, h.ring]
  rfl

end SameMembers

theorem sameMembers_set (fleet : Fleet) (unit : UnitRef) (state : StorageUnit) :
    SameMembers fleet { fleet with pool := fleet.pool.set unit state } :=
  ⟨rfl, rfl⟩

theorem sameMembers_attempt {α : Type} (operation : StorageUnit → Except Error (α × StorageUnit))
    (fleet : Fleet) (unit : UnitRef) : SameMembers fleet (fleet.attempt unit operation).2 := by
  refine ⟨rfl, ?_⟩
  unfold attempt Pool.attempt
  dsimp only
  split
  · rfl
  · rfl

theorem Work.sameMembers (h : Work allowed fleet fleet') : SameMembers fleet fleet' := by
  induction h with
  | refl fleet => exact SameMembers.refl fleet
  | trans _ _ ih ih' => exact ih.trans ih'
  | read fleet unit key => exact sameMembers_attempt _ fleet unit
  | store fleet unit _ => exact sameMembers_attempt _ fleet unit
  | discard fleet unit _ => exact sameMembers_attempt _ fleet unit

theorem sameMembers_checkUnits (probe : Probe) (units : List UnitRef) (monitor : Monitor)
    (report : HealthReport) (fleet : Fleet) :
    SameMembers fleet (Monitor.checkUnits probe monitor report fleet units).2.2 := by
  induction units generalizing fleet monitor report with
  | nil => exact SameMembers.refl fleet
  | cons unit units ih =>
    have hfirst : SameMembers fleet (Monitor.checkUnit probe unit monitor report fleet).2.2 := by
      unfold Monitor.checkUnit
      dsimp only
      split
      · exact ⟨rfl, rfl⟩
      · split
        · exact ⟨rfl, rfl⟩
        · exact ⟨rfl, rfl⟩
    exact hfirst.trans (ih _ _ _)

theorem sameMembers_serve (fleet : Fleet) (unit : UnitRef) (request : UnitRequest) :
    SameMembers fleet (fleet.serve unit request) := by
  cases request with
  | put key value => exact sameMembers_attempt _ fleet unit
  | get key => exact sameMembers_attempt _ fleet unit
  | remove key => exact sameMembers_attempt _ fleet unit
  | setActive active => exact sameMembers_set fleet unit _
  | selfTest => exact sameMembers_set fleet unit _

/-! ### Admissions to fleets with the same members -/

/-- Whether an id is free, the unit that is made of it and the ring with it are said by the ring and
the number of admissions. -/
theorem add?_congr (h : SameMembers fleet fleet') (state : StorageUnit) :
    fleet'.add? state = none ∧ fleet.add? state = none ∨
      ∃ unit after after', fleet.add? state = some (unit, after) ∧
        fleet'.add? state = some (unit, after') ∧ SameMembers after after' := by
  unfold add? Pool.enroll
  dsimp only
  rw [h.ring, h.admissions]
  cases fleet.ring.insert? ⟨state.id, fleet.pool.admissions⟩ with
  | none => exact Or.inl ⟨rfl, rfl⟩
  | some ring => exact Or.inr ⟨_, _, _, rfl, rfl, ⟨rfl, rfl⟩⟩

theorem admissions_add? {state : StorageUnit} (h : fleet.add? state = some (unit, fleet')) :
    unit.serial = fleet.pool.admissions ∧ fleet'.pool.admissions = fleet.pool.admissions + 1 := by
  obtain ⟨ring, -, hpair⟩ := Option.map_eq_some_iff.1 h
  obtain ⟨rfl, rfl⟩ := Prod.mk.inj hpair
  exact ⟨rfl, rfl⟩

/-- A unit is admitted as it is. -/
theorem get_of_added {state : StorageUnit} (h : fleet.add? state = some (unit, fleet')) :
    fleet'.get unit = state := by
  obtain ⟨ring, -, hpair⟩ := Option.map_eq_some_iff.1 h
  obtain ⟨rfl, rfl⟩ := Prod.mk.inj hpair
  simp [get, Pool.get]

/-- A unit is admitted without entries. -/
theorem contents_of_added {id host : String} {port : UInt16}
    (h : fleet.add? { id, host, port } = some (unit, fleet')) :
    (fleet'.get unit).contents = ∅ := by
  rw [get_of_added h]

/-! ### Numbers of units -/

/-- The members have been admitted. -/
def Numbered (fleet : Fleet) : Prop := ∀ unit ∈ fleet.units, unit.serial < fleet.pool.admissions

theorem Numbered.add? (h : fleet.Numbered) (hs : fleet.ring.Sound) {id host : String}
    {port : UInt16} (hadded : fleet.add? { id, host, port } = some (unit, fleet')) :
    fleet'.Numbered := by
  obtain ⟨hserial, hadmissions⟩ := admissions_add? hadded
  intro w hw
  rw [hadmissions]
  rcases ((admission_of_add? hadded).2.mem_units hs).1 hw with hold | rfl
  · exact Nat.lt_succ_of_lt (h w hold)
  · omega

end Fleet

/-! ## The answers of a cluster -/

namespace Cluster

variable {c c' : Cluster} {id host : String} {port : UInt16}

theorem addNode_fst (c : Cluster) (id host : String) (port : UInt16) :
    (c.addNode id host port).1 = !c.fleet.ring.contains id := by
  cases hadded : c.fleet.add? { id, host, port } with
  | none =>
    have htaken : c.fleet.ring.contains id = true := Fleet.add?_eq_none_iff.1 hadded
    rw [addNode_of_taken hadded, htaken]
    rfl
  | some added =>
    obtain ⟨unit, fleet⟩ := added
    have hfree : c.fleet.ring.contains id = false := by
      rw [← Bool.not_eq_true]
      intro htaken
      have hnone : c.fleet.add? { id, host, port } = none := Fleet.add?_eq_none_iff.2 htaken
      rw [hnone] at hadded
      simp at hadded
    rw [(addNode_of_free hadded).1, hfree]
    rfl

theorem removeNode_fst (c : Cluster) (id : String) :
    (c.removeNode id).1 = c.fleet.ring.contains id := by
  rw [Ring.contains_eq]
  cases hunit : c.fleet.ring.get? id with
  | none => rw [removeNode_of_absent hunit, Option.isSome_none]
  | some unit => rw [(removeNode_of_registered hunit).1, Option.isSome_some]

/-- An admission that is refused does nothing. -/
theorem addNode_of_refused (h : (c.addNode id host port).1 = false) :
    (c.addNode id host port).2 = c := by
  cases hadded : c.fleet.add? { id, host, port } with
  | none => rw [addNode_of_taken hadded]
  | some added =>
    rw [(addNode_of_free hadded).1] at h
    simp at h

theorem removeNode_of_refused (h : (c.removeNode id).1 = false) : (c.removeNode id).2 = c := by
  cases hunit : c.fleet.ring.get? id with
  | none => rw [removeNode_of_absent hunit]
  | some unit =>
    rw [(removeNode_of_registered hunit).1] at h
    simp at h

/-- An admission that is accepted enters a new unit into the ring. -/
theorem fleet_addNode_of_accepted (h : (c.addNode id host port).1 = true) :
    ∃ unit fleet, c.fleet.add? { id, host, port } = some (unit, fleet) ∧
      (c.addNode id host port).2.fleet = fleet := by
  cases hadded : c.fleet.add? { id, host, port } with
  | none =>
    rw [addNode_of_taken hadded] at h
    simp at h
  | some added =>
    obtain ⟨unit, fleet⟩ := added
    obtain ⟨-, registration, m, g, heq⟩ := addNode_of_free hadded
    exact ⟨unit, fleet, rfl, by rw [heq]⟩

theorem ring_removeNode_of_accepted (h : (c.removeNode id).1 = true) :
    c.fleet.ring.erase? id = some (c.removeNode id).2.fleet.ring := by
  cases hunit : c.fleet.ring.get? id with
  | none =>
    rw [removeNode_of_absent hunit] at h
    simp at h
  | some unit =>
    obtain ⟨-, fleet, tail, m, g, heq, hremoved, -⟩ := removeNode_of_registered hunit
    obtain ⟨ring, hring, rfl⟩ := Option.map_eq_some_iff.1 hremoved
    rw [heq]
    exact hring

theorem admissions_removeNode (c : Cluster) (id : String) :
    (c.removeNode id).2.fleet.pool.admissions = c.fleet.pool.admissions := by
  rcases removeNode_snd c id with heq | ⟨unit, fleet, tail, m, g, heq, hremoved, -⟩
  · rw [heq]
  · obtain ⟨ring, -, rfl⟩ := Option.map_eq_some_iff.1 hremoved
    rw [heq]
    rfl

/-- After an admission the id is taken, and after a removal it is free, whether accepted or not. -/
theorem contains_addNode (c : Cluster) (id host : String) (port : UInt16) :
    (c.addNode id host port).2.fleet.ring.contains id = true := by
  cases haccepted : (c.addNode id host port).1 with
  | false =>
    rw [addNode_of_refused haccepted]
    simpa [addNode_fst] using haccepted
  | true =>
    obtain ⟨unit, fleet, hadded, hfleet⟩ := fleet_addNode_of_accepted haccepted
    obtain ⟨rfl, hadmission⟩ := Fleet.admission_of_add? hadded
    rw [hfleet, Ring.contains_eq, Ring.get?_insert? hadmission.inserted, if_pos rfl,
      Option.isSome_some]

theorem contains_removeNode (c : Cluster) (id : String) :
    (c.removeNode id).2.fleet.ring.contains id = false := by
  cases haccepted : (c.removeNode id).1 with
  | false =>
    rw [removeNode_of_refused haccepted]
    exact (removeNode_fst c id).symm.trans haccepted
  | true =>
    rw [Ring.contains_eq, Ring.get?_erase? (ring_removeNode_of_accepted haccepted), if_pos rfl,
      Option.isSome_none]

theorem sameMembers_addNode (h : Fleet.SameMembers c.fleet c'.fleet) (id host : String)
    (port : UInt16) :
    Fleet.SameMembers (c.addNode id host port).2.fleet (c'.addNode id host port).2.fleet := by
  rcases Fleet.add?_congr h { id, host, port } with ⟨htaken', htaken⟩ | ⟨unit, f, f', hadded,
    hadded', hsame⟩
  · rw [addNode_of_taken htaken, addNode_of_taken htaken']
    exact h
  · obtain ⟨-, registration, m, g, heq⟩ := addNode_of_free hadded
    obtain ⟨-, registration', m', g', heq'⟩ := addNode_of_free hadded'
    rw [heq, heq']
    exact hsame

theorem sameMembers_removeNode (h : Fleet.SameMembers c.fleet c'.fleet) (id : String) :
    Fleet.SameMembers (c.removeNode id).2.fleet (c'.removeNode id).2.fleet := by
  have hadmissions : (c'.removeNode id).2.fleet.pool.admissions =
      (c.removeNode id).2.fleet.pool.admissions := by
    rw [admissions_removeNode, admissions_removeNode, h.admissions]
  refine ⟨?_, hadmissions⟩
  have hanswer : (c'.removeNode id).1 = (c.removeNode id).1 := by
    rw [removeNode_fst, removeNode_fst, h.ring]
  cases haccepted : (c.removeNode id).1 with
  | false =>
    rw [removeNode_of_refused haccepted, removeNode_of_refused (hanswer.trans haccepted), h.ring]
  | true =>
    have hring := ring_removeNode_of_accepted haccepted
    have hring' := ring_removeNode_of_accepted (hanswer.trans haccepted)
    rw [h.ring, hring] at hring'
    exact (Option.some.inj hring').symm

end Cluster

/-! ## Acts that leave the members alone -/

/-- Whether the act admits or removes a unit. -/
def Act.isMembership : Act → Bool
  | .event (.addNode ..) | .event (.removeNode _) => true
  | _ => false

theorem Act.membership_cases (a : Act) : a.isMembership = false ∨
    (∃ id host port, a = .event (.addNode id host port)) ∨ ∃ id, a = .event (.removeNode id) := by
  cases a with
  | request unit request => exact Or.inl rfl
  | event event =>
    cases event with
    | addNode id host port => exact Or.inr (Or.inl ⟨id, host, port, rfl⟩)
    | removeNode id => exact Or.inr (Or.inr ⟨id, rfl⟩)
    | _ => exact Or.inl rfl

namespace Session

variable {s : Session} {a : Act}

theorem sameMembers_act (s : Session) (h : a.isMembership = false) :
    Fleet.SameMembers s.cluster.fleet (s.act a).cluster.fleet := by
  cases a with
  | request unit request => exact Fleet.sameMembers_serve _ unit request
  | event event =>
    have hwork : event.reorganizes = false →
        Fleet.SameMembers s.cluster.fleet (s.step event).cluster.fleet := fun hevent =>
      (work_step (fun task _ => task.fits_all s.cluster.fleet)
        ((Act.event event).fits_all s.cluster.fleet) hevent).sameMembers
    cases event with
    | addNode | removeNode => exact absurd h.symm Bool.false_ne_true
    | check down => exact Fleet.sameMembers_checkUnits _ _ s.monitor {} s.cluster.fleet
    | switch id active =>
      rw [act, step, Cluster.switch]
      split
      · exact Fleet.sameMembers_set _ _ _
      · exact Fleet.SameMembers.refl _
    | _ => exact hwork rfl

theorem numbered_enlist (virtualNodes : Nat) (units : List UnitSpec) :
    (enlist virtualNodes units).Numbered := by
  -- an admission keeps the numbers apart in a sound ring only
  have hboth : (enlist virtualNodes units).ring.Sound ∧ (enlist virtualNodes units).Numbered := by
    refine enlist_induction_add? (P := fun fleet => fleet.ring.Sound ∧ fleet.Numbered) virtualNodes
      units ⟨Ring.sound_empty virtualNodes, fun unit hunit => ?_⟩ ?_
    · have hnone : (Fleet.empty virtualNodes).units = [] := by
        rw [← List.length_eq_zero_iff, Fleet.units, Ring.length_units]
        exact Std.ExtTreeMap.size_empty
      rw [hnone] at hunit
      exact absurd hunit List.not_mem_nil
    · rintro spec - fleet fleet' unit ⟨hs, h⟩ hadded
      exact ⟨(Fleet.admission_of_add? hadded).2.sound hs, h.add? hs hadded⟩
  exact hboth.2

theorem admissions_act_le (s : Session) (a : Act) :
    s.cluster.fleet.pool.admissions ≤ (s.act a).cluster.fleet.pool.admissions := by
  rcases a.membership_cases with hother | ⟨id, host, port, rfl⟩ | ⟨id, rfl⟩
  · exact (sameMembers_act s hother).admissions.ge
  · rw [act, step]
    cases haccepted : (s.cluster.addNode id host port).1 with
    | false => rw [Cluster.addNode_of_refused haccepted]
    | true =>
      obtain ⟨unit, fleet, hadded, hfleet⟩ := Cluster.fleet_addNode_of_accepted haccepted
      rw [hfleet, (Fleet.admissions_add? hadded).2]
      exact Nat.le_succ _
  · exact (Cluster.admissions_removeNode s.cluster id).ge

/-- A unit that is a member after an act was one before, or is new and has no entries. -/
theorem mem_units_act (hs : s.cluster.fleet.ring.Sound) {unit : UnitRef}
    (hunit : unit ∈ (s.act a).cluster.fleet.units) : unit ∈ s.cluster.fleet.units ∨
      (unit.serial = s.cluster.fleet.pool.admissions ∧
        unit.serial < (s.act a).cluster.fleet.pool.admissions ∧
        ((s.act a).cluster.fleet.get unit).contents = ∅) := by
  rcases a.membership_cases with hother | ⟨id, host, port, rfl⟩ | ⟨id, rfl⟩
  · rw [(sameMembers_act s hother).units] at hunit
    exact Or.inl hunit
  · rw [act, step] at hunit ⊢
    cases haccepted : (s.cluster.addNode id host port).1 with
    | false =>
      rw [Cluster.addNode_of_refused haccepted] at hunit
      exact Or.inl hunit
    | true =>
      obtain ⟨newcomer, fleet, hadded, hfleet⟩ := Cluster.fleet_addNode_of_accepted haccepted
      obtain ⟨hserial, hadmissions⟩ := Fleet.admissions_add? hadded
      rw [hfleet] at hunit ⊢
      refine (((Fleet.admission_of_add? hadded).2.mem_units hs).1 hunit).imp_right ?_
      rintro rfl
      exact ⟨hserial, by omega, Fleet.contents_of_added hadded⟩
  · rw [act, step] at hunit
    cases haccepted : (s.cluster.removeNode id).1 with
    | false =>
      rw [Cluster.removeNode_of_refused haccepted] at hunit
      exact Or.inl hunit
    | true =>
      have herased := Cluster.ring_removeNode_of_accepted haccepted
      exact Or.inl (Ring.mem_units_of_erase? hs herased hunit)

/-- Numbers are given once, in the order of admission. -/
theorem numbered_act (hs : s.cluster.fleet.ring.Sound) (h : s.cluster.fleet.Numbered) (a : Act) :
    (s.act a).cluster.fleet.Numbered := by
  intro unit hunit
  rcases mem_units_act hs hunit with hold | ⟨-, hnew, -⟩
  · exact Nat.lt_of_lt_of_le (h unit hold) (admissions_act_le s a)
  · exact hnew

theorem numbered_play (hs : s.cluster.fleet.ring.Sound) (h : s.cluster.fleet.Numbered)
    (acts : List Act) : (s.play acts).cluster.fleet.Numbered := by
  induction acts generalizing s with
  | nil => exact h
  | cons a acts ih => exact ih (sound_act hs a) (numbered_act hs h a)

end Session

/-! ## The same acts in different clusters -/

namespace Fleet.SameMembers

variable {s s' : Session}

/-- The same act leaves the same members, whatever else the clusters differ in. -/
theorem act (h : SameMembers s.cluster.fleet s'.cluster.fleet) (a : Act) :
    SameMembers (s.act a).cluster.fleet (s'.act a).cluster.fleet := by
  rcases a.membership_cases with hother | ⟨id, host, port, rfl⟩ | ⟨id, rfl⟩
  · exact (Session.sameMembers_act s hother).symm.trans
      (h.trans (Session.sameMembers_act s' hother))
  · exact Cluster.sameMembers_addNode h id host port
  · exact Cluster.sameMembers_removeNode h id

theorem play (h : SameMembers s.cluster.fleet s'.cluster.fleet) (acts : List Act) :
    SameMembers (s.play acts).cluster.fleet (s'.play acts).cluster.fleet := by
  induction acts generalizing s s' with
  | nil => exact h
  | cons a acts ih => exact ih (h.act a)

end Fleet.SameMembers

end QuorumRing
