import QuorumRing.Cluster.Bootstrap
import QuorumRing.Proofs.Cluster.Tally
import QuorumRing.Proofs.Settings.Validation

/-!
# The units that a cluster is started with

A cluster admits the units of its settings in turn, and refuses those whose id is taken. So under each
id the first unit that has it is registered, whatever the settings (`Cluster.Enrolled`). Settings that
pass validation have no two units of the same id, and then all of them are registered.
-/

namespace QuorumRing

/-- The unit as it is when it is admitted. -/
def UnitSpec.newcomer (unit : UnitSpec) : StorageUnit :=
  { id := unit.id, host := unit.host, port := unit.port }

namespace Cluster

variable {c : Cluster} {admitted units : List UnitSpec} {unit : UnitSpec} {id : String}

/-- Under every id the first of the units with that id is registered, and it was counted. -/
structure Enrolled (units : List UnitSpec) (c : Cluster) : Prop where
  sound : c.fleet.ring.Sound
  first : ∀ id, (c.fleet.ring.get? id).map c.fleet.get =
    (units.find? (·.id = id)).map UnitSpec.newcomer
  counted : c.metrics.nodesAdded = c.fleet.units.length

theorem enrolled_empty (virtualNodes replicationFactor writeTimeout : Nat) :
    Enrolled [] (empty virtualNodes replicationFactor writeTimeout) where
  sound := Ring.sound_empty virtualNodes
  first id := by simp [empty, Fleet.empty, Ring.get?]
  counted := by simp [empty, Fleet.empty, Fleet.units, Ring.units]

namespace Enrolled

theorem mem_members_iff (h : Enrolled units c) :
    id ∈ c.fleet.ring.members ↔ id ∈ units.map UnitSpec.id := by
  have hnone : c.fleet.ring.get? id = none ↔ units.find? (·.id = id) = none := by
    rw [← Option.map_eq_none_iff, h.first, Option.map_eq_none_iff]
  rw [← not_iff_not, ← Ring.get?_eq_none_iff, hnone]
  simp

/-- A unit whose id is taken changes nothing, and it is not the first one with its id. -/
theorem addNode_of_taken (h : Enrolled admitted c) (htaken : unit.id ∈ c.fleet.ring.members) :
    Enrolled (admitted ++ [unit]) (c.addNode unit.id unit.host unit.port).2 := by
  have hadd : c.fleet.add? unit.newcomer = none := Fleet.add?_eq_none_iff.2 htaken
  rw [Cluster.addNode_of_taken hadd]
  refine { h with first := fun id => ?_ }
  rw [h.first, List.find?_append]
  cases hfind : admitted.find? (·.id = id) with
  | some earlier => rw [Option.some_or]
  | none =>
    have hne : unit.id ≠ id := by
      rintro rfl
      have hmem := h.mem_members_iff.1 htaken
      simp at hfind hmem
      obtain ⟨other, hother, hid⟩ := hmem
      exact hfind other hother hid
    simp [hne]

theorem addNode_of_free (h : Enrolled admitted c) (hfree : unit.id ∉ c.fleet.ring.members) :
    Enrolled (admitted ++ [unit]) (c.addNode unit.id unit.host unit.port).2 := by
  cases hadd : c.fleet.add? unit.newcomer with
  | none => exact absurd (Fleet.add?_eq_none_iff.1 hadd) hfree
  | some added =>
    obtain ⟨newcomer, fleet⟩ := added
    obtain ⟨hid, hadmission⟩ := Fleet.admission_of_add? hadd
    obtain ⟨haccepted, registration, m, g, hcluster⟩ := Cluster.addNode_of_free hadd
    have hfleet : (c.addNode unit.id unit.host unit.port).2.fleet = fleet := by rw [hcluster]
    have hmetrics := metrics_addNode c unit.id unit.host unit.port
    rw [haccepted, cond_true] at hmetrics
    constructor
    case sound =>
      rw [hfleet]
      exact hadmission.sound h.sound
    case first =>
      intro id
      rw [hfleet, Ring.get?_insert? hadmission.inserted, hid, List.find?_append]
      by_cases heq : id = unit.id
      · have hfirst : admitted.find? (·.id = id) = none := by
          rw [← Option.map_eq_none_iff, ← h.first, Option.map_eq_none_iff, Ring.get?_eq_none_iff, heq]
          exact hfree
        rw [if_pos heq, hfirst]
        simp [heq, Fleet.get_of_added hadd]
      · have hkeep : ∀ w, c.fleet.ring.get? id = some w → fleet.get w = c.fleet.get w := by
          intro w hw
          refine Fleet.get_of_add? hadd fun hsame => heq ?_
          rw [← h.sound.id_of_get? hw, hsame, hid]
        rw [if_neg heq, Option.map_congr hkeep, h.first]
        simp [Ne.symm heq]
    case counted =>
      rw [hmetrics, hfleet]
      exact (congrArg (· + 1) h.counted).trans (Ring.length_units_insert? hadmission.inserted).symm

theorem addNode (h : Enrolled admitted c) (unit : UnitSpec) :
    Enrolled (admitted ++ [unit]) (c.addNode unit.id unit.host unit.port).2 := by
  by_cases htaken : unit.id ∈ c.fleet.ring.members
  · exact h.addNode_of_taken htaken
  · exact h.addNode_of_free htaken

theorem admitAll (h : Enrolled admitted c) (units : List UnitSpec) :
    Enrolled (admitted ++ units) (c.admitAll units) := by
  induction units generalizing admitted c with
  | nil => rwa [List.append_nil]
  | cons unit units ih =>
    rw [List.append_cons]
    exact ih (h.addNode unit)

/-- There is one unit for each id. -/
theorem ids_perm (h : Enrolled units c) :
    (c.fleet.units.map UnitRef.id).Perm (units.map UnitSpec.id).dedup := by
  have hnodup : (c.fleet.units.map UnitRef.id).Nodup :=
    List.pairwise_map.2 (Fleet.units_pairwise h.sound)
  refine (List.perm_ext_iff_of_nodup hnodup (List.nodup_dedup _)).2 fun id => ?_
  rw [List.mem_dedup, ← h.mem_members_iff, List.mem_map]
  constructor
  · rintro ⟨unit, hunit, rfl⟩
    have hget := (Fleet.mem_units h.sound).1 hunit
    by_contra hfree
    rw [Ring.get?_eq_none_iff.2 hfree] at hget
    simp at hget
  · intro hmem
    obtain ⟨unit, hget⟩ := Option.ne_none_iff_exists'.1 (mt Ring.get?_eq_none_iff.1 (not_not.2 hmem))
    have hid := h.sound.id_of_get? hget
    exact ⟨unit, (Fleet.mem_units h.sound).2 (hid ▸ hget), hid⟩

/-- Units with different ids are all registered, each as it is. -/
theorem units_perm (h : Enrolled units c) (hnodup : (units.map UnitSpec.id).Nodup) :
    (c.fleet.units.map c.fleet.get).Perm (units.map UnitSpec.newcomer) := by
  let state (id : String) : Option StorageUnit := (units.find? (·.id = id)).map UnitSpec.newcomer
  have hregistered : (c.fleet.units.map UnitRef.id).filterMap state = c.fleet.units.map c.fleet.get := by
    rw [List.filterMap_map, ← List.filterMap_eq_map]
    refine List.filterMap_congr fun unit hunit => ?_
    have hfirst := h.first unit.id
    rw [(Fleet.mem_units h.sound).1 hunit] at hfirst
    exact hfirst.symm
  have hlisted : (units.map UnitSpec.id).filterMap state = units.map UnitSpec.newcomer := by
    rw [List.filterMap_map, ← List.filterMap_eq_map]
    refine List.filterMap_congr fun unit hunit => ?_
    show state unit.id = some unit.newcomer
    cases hfind : units.find? (·.id = unit.id) with
    | none => simpa using List.find?_eq_none.1 hfind unit hunit
    | some first =>
      have hid : first.id = unit.id := by simpa using List.find?_some hfind
      obtain rfl := List.inj_on_of_nodup_map hnodup (List.mem_of_find?_eq_some hfind) hunit hid
      simp only [state, hfind, Option.map_some]
  have hids := h.ids_perm
  rw [hnodup.dedup] at hids
  rw [← hregistered, ← hlisted]
  exact hids.filterMap state

end Enrolled

theorem enrolled_bootstrap (settings : Settings) :
    Enrolled settings.initialUnits (bootstrap settings) :=
  (enrolled_empty _ _ _).admitAll settings.initialUnits

end Cluster

/-- Settings pass validation if they ask for something of everything and give each unit an id of its
own. Otherwise the first problem is reported. Whether they pass or not, a cluster that is started with
them has one unit for each id, which is the first one with that id, and has counted them; so if they
pass, it has all units of the settings. -/
theorem Settings.validated_and_enrolled (settings : Settings) :
    let coordinator := settings.coordinator
    let ids := settings.initialUnits.map UnitSpec.id
    let c := Cluster.bootstrap settings
    (settings.validate = .ok () ↔
      1 ≤ coordinator.replicationFactor ∧ 1 ≤ coordinator.virtualNodes ∧
        1 ≤ coordinator.writeTimeout ∧ 1 ≤ coordinator.healthCheckInterval ∧
        "" ∉ ids ∧ ids.Nodup) ∧
    (∀ e, settings.validate = .error e ↔ ∃ problem, e = .invalidConfig problem.message ∧
      settings.Has problem ∧ ∀ other, settings.Has other → problem.rank ≤ other.rank) ∧
    (∀ id, (c.fleet.ring.get? id).map c.fleet.get =
      (settings.initialUnits.find? (·.id = id)).map UnitSpec.newcomer) ∧
    (c.fleet.units.map UnitRef.id).Perm ids.dedup ∧
    c.metrics.nodesAdded = ids.dedup.length ∧
    (settings.validate = .ok () →
      (c.fleet.units.map c.fleet.get).Perm (settings.initialUnits.map UnitSpec.newcomer)) := by
  intro coordinator ids c
  have henrolled := Cluster.enrolled_bootstrap settings
  have hvalid : settings.validate = .ok () ↔ _ := validate_eq_ok_iff.trans problem?_eq_none_iff
  refine ⟨?_, ?_, henrolled.first, henrolled.ids_perm, ?_, ?_⟩
  · rw [hvalid, WellNamed, and_comm (a := ids.Nodup)]
  · intro e
    rw [validate_eq_error_iff]
    simp only [problem?_eq_some_iff, and_comm]
  · have hlength := henrolled.ids_perm.length_eq
    rw [List.length_map] at hlength
    exact henrolled.counted.trans hlength
  · intro h
    obtain ⟨-, -, -, -, hnodup, -⟩ := hvalid.1 h
    exact henrolled.units_perm hnodup

/-- Two units that pass. -/
theorem Settings.validated_and_enrolled_two :
    let east : UnitSpec := { id := "east", host := "::1", port := 7001 }
    let west : UnitSpec := { id := "west", host := "localhost", port := 7001 }
    let settings : Settings := { initialUnits := [west, east] }
    let c := Cluster.bootstrap settings
    settings.validate = .ok () ∧
      (c.fleet.units.map c.fleet.get).Perm [west.newcomer, east.newcomer] := by
  intro east west settings c
  obtain ⟨hvalid, -, -, -, -, hall⟩ := validated_and_enrolled settings
  have h : settings.validate = .ok () := hvalid.2 (by decide)
  exact ⟨h, hall h⟩

end QuorumRing
