import QuorumRing.Cluster.Bootstrap
import QuorumRing.Proofs.Cluster.Ledger
import QuorumRing.Proofs.Cluster.Session
import QuorumRing.Proofs.Fleet.Conservation
import QuorumRing.Proofs.Settings.Validation

/-!
# A cluster that is started

While a cluster is started its units are admitted one after the other, and a migration onto each of
them is queued. There are no entries yet, so that the migrations find nothing to do, whenever they
run. Once they have, the cluster mirrors a ledger without entries (`Cluster.mirrors_bootstrap`).
-/

namespace QuorumRing

/-! ## Migrations without entries -/

/-- Where there are no entries a migration finds no keys. -/
theorem Fleet.keysOn_of_bare {fleet : Fleet} (h : ∀ unit key, fleet.copy unit key = none)
    (units : List UnitRef) : (fleet.keysOn units).toList = [] := by
  refine List.eq_nil_iff_forall_not_mem.2 fun key hkey => ?_
  obtain ⟨unit, -, hheld⟩ := mem_keysOn.1 (Std.ExtTreeSet.mem_toList.1 hkey)
  rw [h] at hheld
  exact Bool.noConfusion hheld

namespace Cluster

variable {coordinator : CoordinatorSettings} {ids : List String} {c : Cluster}

/-- A cluster that has admitted units of these ids and was asked for nothing yet. -/
structure Booting (coordinator : CoordinatorSettings) (ids admitted : List String) (c : Cluster) :
    Prop where
  ring : c.fleet.ring.Apart ids
  nodes : c.fleet.ring.virtualNodes = coordinator.virtualNodes
  factor : c.replicationFactor = coordinator.replicationFactor
  timeout : c.writeTimeout = coordinator.writeTimeout
  opened : c.closed = false
  active : ∀ unit ∈ c.fleet.units, c.fleet.pool.isActive unit = true
  members : ∀ id, id ∈ c.fleet.ring.members ↔ id ∈ admitted
  bare : ∀ unit key, c.fleet.copy unit key = none
  joins : ∀ task ∈ c.queue, ∃ unit registration, task = .join unit registration
  writes : c.metrics.writes = 0
  operations : c.metrics.nodeOperations = ∅

namespace Booting

variable {admitted : List String}

theorem addNode (h : Booting coordinator ids admitted c) {id : String} (hid : id ∈ ids)
    (hfresh : id ∉ admitted) (host : String) (port : UInt16) :
    Booting coordinator ids (admitted ++ [id]) (c.addNode id host port).2 := by
  have hfree : id ∉ c.fleet.ring.members := mt (h.members id).1 hfresh
  cases hadd : c.fleet.add? { id, host, port } with
  | none => exact absurd (Fleet.add?_eq_none_iff.1 hadd) hfree
  | some added =>
    obtain ⟨unit, fleet⟩ := added
    obtain ⟨rfl, hadmission⟩ := Fleet.admission_of_add? hadd
    have hinsert := hadmission.inserted
    obtain ⟨registration, g, hlaunch⟩ := launch_eq
      ({ c with fleet }.record (·.recordNodeAdded)) .join unit.id (.join unit)
    have hcluster : (c.addNode unit.id host port).2 =
        { c with
          fleet
          queue := c.queue ++ if c.closed then [] else [.join unit registration]
          metrics := c.metrics.recordNodeAdded
          registry := g } := by
      rw [Cluster.addNode, hadd]
      exact hlaunch
    rw [hcluster]
    constructor
    case ring => exact h.ring.insert? hinsert hid
    case nodes => exact (Ring.virtualNodes_insert? hinsert).trans h.nodes
    case factor => exact h.factor
    case timeout => exact h.timeout
    case opened => exact h.opened
    case active =>
      intro w hw
      show fleet.pool.isActive w = true
      rw [hadmission.active]
      rcases (hadmission.mem_units h.ring.sound).1 hw with hw | rfl
      · rw [h.active w hw, Bool.true_or]
      · rw [beq_self_eq_true, Bool.or_true]
    case members =>
      intro other
      show other ∈ fleet.ring.members ↔ other ∈ admitted ++ [unit.id]
      rw [Ring.mem_members_insert? hinsert, h.members, List.mem_append, List.mem_singleton,
        or_comm]
    case bare =>
      intro w key
      show fleet.copy w key = none
      rw [hadmission.copy, h.bare, ite_self]
    case joins =>
      intro task htask
      rcases List.mem_append.1 htask with htask | htask
      · exact h.joins task htask
      · rw [h.opened] at htask
        exact ⟨unit, registration, List.mem_singleton.1 htask⟩
    case writes => exact h.writes
    case operations => exact h.operations

theorem admitAll (h : Booting coordinator ids admitted c) {units : List UnitSpec}
    (hids : ∀ unit ∈ units, unit.id ∈ ids)
    (hnodup : (admitted ++ units.map UnitSpec.id).Nodup) :
    Booting coordinator ids (admitted ++ units.map UnitSpec.id) (c.admitAll units) := by
  induction units generalizing admitted c with
  | nil => rwa [List.map_nil, List.append_nil]
  | cons unit units ih =>
    obtain ⟨hfirst, hrest⟩ := List.forall_mem_cons.1 hids
    rw [List.map_cons, List.append_cons] at hnodup ⊢
    have hfresh : unit.id ∉ admitted := by
      intro hmem
      have hapart := (List.nodup_append.1 (List.nodup_append.1 hnodup).1).2.2
      exact hapart unit.id hmem unit.id (List.mem_singleton_self _) rfl
    exact ih (h.addNode hfirst hfresh unit.host unit.port) hrest hnodup

/-- A migration ends at once, and changes nothing. -/
theorem run_join (h : Booting coordinator ids admitted c) (tasks : List Task) (unit : UnitRef)
    (registration : Registration) : ∃ g,
      ({ c with queue := tasks } : Cluster).run (.join unit registration) =
        { c with queue := tasks, registry := g } := by
  refine ⟨c.registry.finish registration, ?_⟩
  rw [run, perform, Cluster.pull, Fleet.keysOn_of_bare h.bare]
  rfl

/-- The queued migrations change nothing. -/
theorem drain (h : Booting coordinator ids admitted c) :
    Booting coordinator ids admitted c.drain ∧ c.drain.queue = [] := by
  refine ⟨drain_induction h fun c' h' => ?_, queue_drain c⟩
  rw [runAt]
  cases hqueue : c'.queue with
  | nil => exact h'
  | cons task tasks =>
    obtain ⟨unit, registration, rfl⟩ := h'.joins task (hqueue ▸ List.mem_cons_self)
    obtain ⟨g, hrun⟩ := h'.run_join tasks unit registration
    dsimp only [List.getElem?_cons_zero, List.eraseIdx_cons_zero]
    rw [hrun]
    exact { h' with joins := fun task htask => h'.joins task (hqueue ▸ List.mem_cons_of_mem _ htask) }

end Booting

theorem booting_empty (coordinator : CoordinatorSettings)
    (hapart : LabelsApart coordinator.virtualNodes ids) :
    Booting coordinator ids [] (empty coordinator.virtualNodes coordinator.replicationFactor
      coordinator.writeTimeout) where
  ring := Ring.apart_empty hapart
  nodes := rfl
  factor := rfl
  timeout := rfl
  opened := rfl
  active unit hunit := by simp [empty, Fleet.empty, Fleet.units, Ring.units] at hunit
  members id := by simp [empty, Fleet.empty]
  bare unit key := by simp [empty, Fleet.empty, Fleet.copy, Fleet.get, Pool.get]
  joins task htask := absurd htask List.not_mem_nil
  writes := rfl
  operations := rfl

variable {settings : Settings}

theorem booting_bootstrap
    (hapart : LabelsApart settings.coordinator.virtualNodes (settings.initialUnits.map UnitSpec.id))
    (hnodup : (settings.initialUnits.map UnitSpec.id).Nodup) :
    Booting settings.coordinator (settings.initialUnits.map UnitSpec.id)
        (settings.initialUnits.map UnitSpec.id) (bootstrap settings).drain ∧
      (bootstrap settings).drain.queue = [] :=
  ((booting_empty settings.coordinator hapart).admitAll
    (fun _ hunit => List.mem_map_of_mem hunit) hnodup).drain

/-- A cluster that was started with valid settings mirrors a ledger of the ids of its units, without
entries. -/
theorem mirrors_bootstrap (hvalid : settings.validate = .ok ())
    (hapart : LabelsApart settings.coordinator.virtualNodes
      (settings.initialUnits.map UnitSpec.id)) :
    Mirrors (settings.initialUnits.map UnitSpec.id) (bootstrap settings).drain
      { ids := .ofList (settings.initialUnits.map UnitSpec.id) } := by
  obtain ⟨hfactor, hnodes, htime, hnodup⟩ := Settings.of_validate hvalid
  obtain ⟨h, hidle⟩ := booting_bootstrap hapart hnodup
  constructor
  case ring => exact h.ring
  case nodes => exact h.nodes ▸ hnodes
  case factor => exact h.factor ▸ hfactor
  case timed => exact h.timeout ▸ htime
  case opened => exact h.opened
  case idle => exact hidle
  case active => exact h.active
  case members =>
    intro id
    rw [Std.ExtTreeSet.mem_ofList, List.contains_iff_mem]
    exact h.members id
  case holds =>
    refine ⟨fun unit hunit key => ?_, fun key hkey => ?_⟩
    · refine (h.bare unit key).trans ?_
      simp
    · simp at hkey

end Cluster

end QuorumRing
