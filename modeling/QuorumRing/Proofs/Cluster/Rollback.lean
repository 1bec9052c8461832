import QuorumRing.Proofs.Cluster.Session

/-!
# What a change of membership does to reads

A copy that a unit kept while it was switched off, or after newer units had taken its place among
the replicas, is not told apart from a new one. A verification looks at replicas only, so that such
copies remain unseen in a clean cluster, and a change of membership may bring one of them back.

The two statements here say exactly when. When a unit is removed, its copy of a key, if it has one,
is what a read finds afterwards (`get_drain_removeNode`). When a unit is admitted, a read is changed
if the new unit is the closest replica and took over a stray copy (`get_drain_addNode`).
-/

namespace QuorumRing

/-! ## Reads in a clean cluster -/

namespace Fleet.Admission

variable {fleet fleet' : Fleet} {unit : UnitRef} {key : String} {r : Nat} {held : Option String}
  (hs : fleet.ring.Sound) (h : Admission fleet fleet' unit) (hmore : OneMore fleet fleet' unit)
  (hagree : ∀ w ∈ fleet.replicas key r, fleet.copy w key = held)
include hs h hmore hagree

theorem findSome?_migrate_of_not_mem (hnil : fleet.replicas key r = [] → held = none)
    (hnot : unit ∉ fleet'.replicas key r) :
    (fleet'.replicas key r).findSome? ((fleet'.migrate unit r).2.copy · key) = held := by
  rw [← hmore.replicas_of_not_mem hnot]
  refine findSome?_eq_of_forall (fun w hw => ?_) hnil
  rw [copy_migrate_of_not_mem (h.sound hs) (h.mem_units_self hs) hnot,
    h.copy_of_mem_units hs (mem_units_of_mem_replicas hs hw), hagree w hw]

theorem findSome?_migrate_of_no_stray (hnil : fleet.replicas key r = [] → held = none)
    (hmem : unit ∈ fleet'.replicas key r)
    (hstray : fleet'.stray? r (fleet'.others unit) key = none) :
    (fleet'.replicas key r).findSome? ((fleet'.migrate unit r).2.copy · key) = held := by
  refine findSome?_eq_of_forall (fun w hw => ?_) fun hempty => ?_
  · by_cases hne : w = unit
    · rw [hne, h.copy_migrate_of_no_stray hs hmore hmem hstray hagree hnil]
    · have hold := hmore.mem_replicas_of_mem hw hne
      rw [h.copy_migrate_of_mem_units hs (mem_units_of_mem_replicas hs hold) (by simp [hstray]),
        hagree w hold]
  · simp [hempty] at hmem

/-- The copy of a stray holder is found if the new unit, which took it over, is asked first. -/
theorem findSome?_migrate_of_stray {stray : UnitRef} (hsome : held ≠ none)
    (hmem : unit ∈ fleet'.replicas key r)
    (hstray : fleet'.stray? r (fleet'.others unit) key = some stray) :
    (fleet'.replicas key r).findSome? ((fleet'.migrate unit r).2.copy · key) =
      if (fleet'.replicas key r).head? = some unit then fleet.copy stray key else held := by
  obtain ⟨-, hheld, hgone⟩ := h.stray?_spec hs hstray
  obtain ⟨old, hcopy⟩ := Option.isSome_iff_exists.1 hheld
  obtain ⟨value, rfl⟩ := Option.ne_none_iff_exists'.1 hsome
  obtain ⟨first, rest, hfirst⟩ := List.exists_cons_of_ne_nil (List.ne_nil_of_mem hmem)
  have hmem' : first ∈ fleet'.replicas key r := hfirst ▸ List.mem_cons_self
  rw [hfirst, List.findSome?_cons, List.head?_cons]
  by_cases hne : first = unit
  · rw [hne, (h.copy_migrate_of_stray hs hmem hstray).1, hcopy, if_pos rfl]
  · have hreplica := hmore.mem_replicas_of_mem hmem' hne
    have hstays : stray ≠ first := fun heq => hgone (heq ▸ hmem')
    rw [h.copy_migrate_of_mem_units hs (mem_units_of_mem_replicas hs hreplica)
      (by simp [hstray, hstays]), hagree first hreplica, if_neg (by simp [hne])]

/-- What a read finds after a migration onto a unit just admitted, if all replicas of before agree
and nobody else holds a key that they lack. -/
theorem findSome?_migrate (hnil : fleet.replicas key r = [] → held = none)
    (hstored : key ∈ fleet.storedKeys → held ≠ none) :
    (fleet'.replicas key r).findSome? ((fleet'.migrate unit r).2.copy · key) =
      if (fleet'.replicas key r).head? = some unit then
        ((fleet'.stray? r (fleet'.others unit) key).bind (fleet.copy · key)).or held
      else held := by
  by_cases hmem : unit ∈ fleet'.replicas key r
  · cases hstray : fleet'.stray? r (fleet'.others unit) key with
    | none =>
      rw [h.findSome?_migrate_of_no_stray hs hmore hagree hnil hmem hstray, Option.bind_none,
        Option.none_or, ite_self]
    | some stray =>
      obtain ⟨hold, hheld, -⟩ := h.stray?_spec hs hstray
      have hsome := hstored (mem_storedKeys.2 ⟨stray, hold, hheld⟩)
      obtain ⟨old, hcopy⟩ := Option.isSome_iff_exists.1 hheld
      rw [h.findSome?_migrate_of_stray hs hmore hagree hsome hmem hstray, Option.bind_some, hcopy,
        Option.some_or]
  · rw [if_neg fun hhead => hmem (List.mem_of_head? hhead)]
    exact h.findSome?_migrate_of_not_mem hs hmore hagree hnil hmem

end Fleet.Admission

namespace Cluster

variable {c : Cluster} {unit : UnitRef} {key value : String}

/-- In a clean cluster a read finds every key that is stored, with the value of all its replicas. -/
theorem get_of_mem_storedKeys (hs : c.fleet.ring.Sound) (hclean : c.verify.1.isClean = true)
    (hstored : key ∈ c.fleet.storedKeys) :
    ∃ value, (c.get key).1 = some value ∧
      ∀ u ∈ c.replicas key, c.fleet.copy u key = some value := by
  obtain ⟨hne, value, hall⟩ :=
    ((Fleet.isClean_verify_iff hs c.replicationFactor).1 hclean).2 key hstored
  refine ⟨value, (get_fst hs key).trans ?_, hall⟩
  exact Fleet.findSome?_eq_of_forall hall fun hnil => absurd hnil hne

/-- In a clean cluster all replicas of a key agree on what a read finds. -/
theorem copy_eq_get (hs : c.fleet.ring.Sound) (hclean : c.verify.1.isClean = true)
    (hmem : unit ∈ c.replicas key) : c.fleet.copy unit key = (c.get key).1 := by
  by_cases hstored : key ∈ c.fleet.storedKeys
  · obtain ⟨value, hread, hall⟩ := get_of_mem_storedKeys hs hclean hstored
    rw [hread, hall unit hmem]
  · have hnone : ∀ u ∈ c.replicas key, c.fleet.copy u key = none := by
      intro u hu
      by_contra hheld
      refine hstored (Fleet.mem_storedKeys.2 ⟨u, Fleet.mem_units_of_mem_replicas hs hu, ?_⟩)
      exact Option.isSome_iff_ne_none.2 hheld
    rw [get_fst hs, hnone unit hmem, Fleet.findSome?_eq_of_forall hnone fun _ => rfl]

theorem settings_pos_of_mem_replicas (hs : c.fleet.ring.Sound) (hmem : unit ∈ c.replicas key) :
    0 < c.fleet.ring.virtualNodes ∧ 0 < c.replicationFactor := by
  rw [replicas, Fleet.replicas_eq hs] at hmem
  have hranked := (List.mem_filter.1 (List.mem_of_mem_take hmem)).1
  obtain ⟨p, hp⟩ := (Ring.mem_order hs).1 hranked
  obtain ⟨i, hi, -⟩ := Ring.mem_labelPositions.1 (hs.owner_label hp)
  have hlen := List.length_pos_of_mem hmem
  rw [List.length_take] at hlen
  omega

/-- After the removal of a unit from a clean and idle cluster, a read that found a value finds the
copy of the removed unit, if it had one, and the same value as before otherwise. -/
theorem get_drain_removeNode (hs : c.fleet.ring.Sound) (hopen : c.closed = false)
    (hidle : c.queue = []) (hclean : c.verify.1.isClean = true) {id : String}
    (hget : c.fleet.ring.get? id = some unit) (hother : ∃ w ∈ c.fleet.activeUnits, w ≠ unit)
    (hread : (c.get key).1 = some value) :
    ((c.removeNode id).2.drain.get key).1 = some ((c.fleet.copy unit key).getD value) := by
  obtain ⟨fleet, final, m, g, hdrain, hdeparture, hshape, hcopy⟩ :=
    drain_removeNode hs hopen hidle hget
  obtain ⟨w, hw, hne⟩ := hother
  have hleft : fleet.activeUnits ≠ [] :=
    List.ne_nil_of_mem ((hdeparture.mem_activeUnits hs).2 ⟨hw, hne⟩)
  have hs' := hdeparture.sound hs
  have hundisputed := hs.undisputed ((Fleet.isClean_verify_iff hs _).1 hclean).1
  -- the read found a replica, so that there are replicas also afterwards
  obtain ⟨u, hu, -⟩ : ∃ u ∈ c.replicas key, c.fleet.copy u key = some value := by
    rw [get_fst hs] at hread
    exact List.exists_of_findSome?_eq_some hread
  obtain ⟨hnodes, hfactor⟩ := settings_pos_of_mem_replicas hs hu
  rw [← Ring.virtualNodes_erase? hdeparture.erased] at hnodes
  have hreplicas := Fleet.replicas_ne_nil hs' (hundisputed.erase? hs hdeparture.erased) hnodes
    hfactor hleft key
  have hafter : ((c.removeNode id).2.drain.get key).1 =
      (fleet.replicas key c.replicationFactor).findSome? (final.copy · key) := by
    rw [hdrain, ← hshape.replicas]
    exact get_fst (hshape.ring.symm ▸ hs') key
  rw [hafter]
  refine Fleet.findSome?_eq_of_forall (fun v hv => ?_) fun hnil => absurd hnil hreplicas
  refine (hcopy hleft v key).trans ?_
  rw [if_pos hv]
  cases hheld : c.fleet.copy unit key with
  | some old => rfl
  | none =>
    have hnot : unit ∉ c.replicas key := fun hmem => by
      rw [copy_eq_get hs hclean hmem, hread] at hheld
      simp at hheld
    have hv : v ∈ c.replicas key := by
      rwa [(hdeparture.oneMore hs).replicas_of_not_mem hnot] at hv
    rw [Option.none_or, hdeparture.copy, copy_eq_get hs hclean hv, hread]
    rfl

/-- After the admission of a unit to vacant positions of a clean and idle cluster, a read finds what
it found before, unless the new unit is the closest replica and there was a stray holder of the key:
then it finds the copy of that one. -/
theorem get_drain_addNode (hs : c.fleet.ring.Sound) (hopen : c.closed = false)
    (hidle : c.queue = []) (hclean : c.verify.1.isClean = true) {id : String}
    (hfree : id ∉ c.fleet.ring.members)
    (hvacant : ∀ p ∈ c.fleet.ring.labelPositions id, c.fleet.ring.slots[p]? = none)
    (host : String) (port : UInt16) :
    let after := (c.addNode id host port).2
    ∃ unit, after.fleet.ring.get? id = some unit ∧ ∀ key, (after.drain.get key).1 =
      if (after.replicas key).head? = some unit then
        ((after.fleet.stray? c.replicationFactor (after.fleet.others unit) key).bind
          (c.fleet.copy · key)).or (c.get key).1
      else (c.get key).1 := by
  cases hadd : c.fleet.add? { id, host, port } with
  | none => exact absurd (Fleet.add?_eq_none_iff.1 hadd) hfree
  | some added =>
    obtain ⟨unit, fleet⟩ := added
    obtain ⟨rfl, hadmission⟩ := Fleet.admission_of_add? hadd
    obtain ⟨-, registration, m, g, hsnd⟩ := addNode_of_free hadd
    obtain ⟨m', g', hdrain⟩ := drain_addNode hopen hidle hadd
    have hs' := hadmission.sound hs
    have hmore := hadmission.oneMore hs hvacant
    have hshape := Fleet.sameShape_migrate fleet unit c.replicationFactor
    have hread : ∀ key, ((c.addNode unit.id host port).2.drain.get key).1 =
        (fleet.replicas key c.replicationFactor).findSome?
          ((fleet.migrate unit c.replicationFactor).2.copy · key) := by
      intro key
      rw [hdrain, ← hshape.replicas]
      exact get_fst (hshape.ring.symm ▸ hs') key
    intro after
    have hafter : after.fleet = fleet ∧ after.replicationFactor = c.replicationFactor := by
      simp only [after, hsnd, and_self]
    refine ⟨unit, ?_, fun key => ?_⟩
    · rw [hafter.1, Ring.get?_insert? hadmission.inserted, if_pos rfl]
    · rw [hread, replicas, hafter.1, hafter.2]
      refine hadmission.findSome?_migrate hs hmore (fun w hw => copy_eq_get hs hclean hw)
        (fun hnil => ?_) (fun hstored => ?_)
      · rw [get_fst hs, replicas, hnil, List.findSome?_nil]
      · obtain ⟨value, hfound, -⟩ := get_of_mem_storedKeys hs hclean hstored
        rw [hfound]
        exact Option.some_ne_none value

end Cluster

/-! ## Reads in a session -/

namespace Session

variable {virtualNodes replicationFactor writeTimeout : Nat} {units : List UnitSpec}
  {events : List Event}

/-- Whatever has happened before, the removal of a unit from a clean and idle cluster in which
another unit is active loses no key, and changes a read if and only if the unit held another value
of the key. -/
theorem read_after_removal (hgoes : ∀ e ∈ events, e.goesOn = true) :
    let c := ((start virtualNodes replicationFactor writeTimeout units).run events).cluster
    c.queue = [] → c.verify.1.isClean = true →
      ∀ id unit, c.fleet.ring.get? id = some unit → (∃ w ∈ c.fleet.activeUnits, w ≠ unit) →
        ∀ key value, (c.get key).1 = some value →
          ((c.removeNode id).2.drain.get key).1 = some ((c.fleet.copy unit key).getD value) := by
  intro c hidle hclean id unit hget hother key value hread
  have hworking := (working_start virtualNodes replicationFactor writeTimeout units).run hgoes
  exact Cluster.get_drain_removeNode hworking.sound hworking.opened hidle hclean hget hother hread

set_option maxRecDepth 4096 in
/-- The removal of a unit that was switched off for a while and has been brought up to date. -/
theorem read_after_removal_mended :
    let c := ((start 1 2 5000 [⟨"a", "localhost", 8000⟩, ⟨"b", "localhost", 8001⟩,
      ⟨"c", "localhost", 8002⟩]).run [.put "x" "old", .switch "b" false, .put "x" "new",
        .switch "b" true, .repair "x"]).cluster
    ((c.removeNode "b").2.drain.get "x").1 = some ((c.fleet.copy ⟨"b", 1⟩ "x").getD "new") := by
  intro c
  have h : c.queue = [] ∧ c.verify.1.isClean = true ∧
      c.fleet.ring.get? "b" = some ⟨"b", 1⟩ ∧ (∃ w ∈ c.fleet.activeUnits, w ≠ ⟨"b", 1⟩) ∧
      (c.get "x").1 = some "new" := by decide +kernel
  obtain ⟨hidle, hclean, hget, hother, hread⟩ := h
  exact read_after_removal (by decide) hidle hclean "b" ⟨"b", 1⟩ hget hother "x" "new" hread

/-- A unit that was switched off brings the value it held back when it is removed. -/
theorem removal_rolls_back :
    let c := ((start 1 1 5000 [⟨"a", "localhost", 8000⟩, ⟨"b", "localhost", 8001⟩]).run
      [.put "x" "old", .switch "b" false, .put "x" "new"]).cluster
    c.queue = [] ∧ c.verify.1.isClean = true ∧ c.fleet.ring.get? "b" = some ⟨"b", 1⟩ ∧
      (∃ w ∈ c.fleet.activeUnits, w ≠ ⟨"b", 1⟩) ∧ (c.get "x").1 = some "new" ∧
      ((c.removeNode "b").2.drain.get "x").1 = some "old" := by
  decide +kernel

/-- Whatever has happened before, the admission of a unit to vacant positions of a clean and idle
cluster changes a read if and only if the unit becomes the closest replica of the key and the first
active unit, by id, that holds the key without being a replica holds another value. -/
theorem read_after_admission (hgoes : ∀ e ∈ events, e.goesOn = true) :
    let c := ((start virtualNodes replicationFactor writeTimeout units).run events).cluster
    c.queue = [] → c.verify.1.isClean = true →
      ∀ id, id ∉ c.fleet.ring.members →
        (∀ p ∈ c.fleet.ring.labelPositions id, c.fleet.ring.slots[p]? = none) →
        ∀ host port, let after := (c.addNode id host port).2
          ∃ unit, after.fleet.ring.get? id = some unit ∧ ∀ key, (after.drain.get key).1 =
            if (after.replicas key).head? = some unit then
              ((after.fleet.stray? c.replicationFactor (after.fleet.others unit) key).bind
                (c.fleet.copy · key)).or (c.get key).1
            else (c.get key).1 := by
  intro c hidle hclean id hfree hvacant host port
  have hworking := (working_start virtualNodes replicationFactor writeTimeout units).run hgoes
  exact Cluster.get_drain_addNode hworking.sound hworking.opened hidle hclean hfree hvacant
    host port

set_option maxRecDepth 4096 in
/-- The admission of a unit after a delete that did not reach a unit switched off at the time. -/
theorem read_after_admission_deleted :
    let c := ((start 1 1 5000 [⟨"b", "localhost", 8000⟩, ⟨"c", "localhost", 8001⟩]).run
      [.put "z" "v", .switch "c" false, .delete "z", .switch "c" true, .delete "z"]).cluster
    let after := (c.addNode "d" "localhost" 9000).2
    ∃ unit, after.fleet.ring.get? "d" = some unit ∧ ∀ key, (after.drain.get key).1 =
      if (after.replicas key).head? = some unit then
        ((after.fleet.stray? c.replicationFactor (after.fleet.others unit) key).bind
          (c.fleet.copy · key)).or (c.get key).1
      else (c.get key).1 := by
  intro c
  have h : c.queue = [] ∧ c.verify.1.isClean = true ∧ "d" ∉ c.fleet.ring.members ∧
      ∀ i < c.fleet.ring.virtualNodes,
        c.fleet.ring.slots[Position.ofString (virtualNodeLabel "d" i)]? = none := by decide +kernel
  obtain ⟨hidle, hclean, hfree, hvacant⟩ := h
  exact read_after_admission (by decide) hidle hclean "d" hfree (Ring.vacant_iff.2 hvacant)
    "localhost" 9000

/-- A new unit takes over the value of a unit that had stood in for the displaced replica. -/
theorem admission_rolls_back :
    let c := ((start 1 1 5000 [⟨"b", "localhost", 8000⟩, ⟨"c", "localhost", 8001⟩]).run
      [.switch "c" false, .put "z" "old", .switch "c" true, .put "z" "new"]).cluster
    c.queue = [] ∧ c.verify.1.isClean = true ∧ "d" ∉ c.fleet.ring.members ∧
      (∀ p ∈ c.fleet.ring.labelPositions "d", c.fleet.ring.slots[p]? = none) ∧
      (c.get "z").1 = some "new" ∧
      ((c.addNode "d" "localhost" 9000).2.drain.get "z").1 = some "old" := by
  simp only [Ring.vacant_iff]
  decide +kernel

end Session

end QuorumRing
