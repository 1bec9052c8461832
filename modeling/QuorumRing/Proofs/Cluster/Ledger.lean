import QuorumRing.Cluster.Status
import QuorumRing.Proofs.Cluster.Effects
import QuorumRing.Proofs.Fleet.Replication
import QuorumRing.Proofs.Ring.Labels

/-!
# A cluster as a map

Seen from outside, a cluster whose units stay active, and whose background work runs after each
request, is a map with a set of ids beside it (`Ledger`). It gives the answers of the map, and at
any time every key of the map is held by its replicas and by nobody else, whatever units have come
and gone (`Mirrors`).
-/

namespace QuorumRing

/-- A request to a cluster. -/
inductive Request where
  /-- Stores a value under a key. -/
  | put (key value : String)
  /-- Reads a key. -/
  | get (key : String)
  /-- Removes a key. -/
  | delete (key : String)
  /-- Admits a unit. -/
  | addNode (id host : String) (port : UInt16)
  /-- Removes a unit. -/
  | removeNode (id : String)
  /-- Repairs a key. -/
  | repair (key : String)
  /-- Verifies the cluster. -/
  | verify
deriving DecidableEq, Repr

/-- What a request is answered with. -/
inductive Answer where
  /-- Whether a value was stored. -/
  | outcome (result : Except Error Unit)
  /-- The value of a key. -/
  | value (found : Option String)
  /-- Whether there was something to remove, an id was free, or nothing was found wrong. -/
  | verdict (yes : Bool)

namespace Request

/-- The ids under which units may be admitted. -/
def admits : Request → List String
  | .addNode id _ _ => [id]
  | _ => []

end Request

/-! ## The map -/

/-- A map and a set of ids. -/
structure Ledger where
  /-- The ids. -/
  ids : Std.ExtTreeSet String := ∅
  /-- The map. -/
  entries : Contents := ∅

namespace Ledger

/-- Answers a request. -/
def serve (l : Ledger) : Request → Answer × Ledger
  | .put key value =>
    if l.ids.isEmpty then (.outcome (.error .noActiveUnits), l)
    else (.outcome (.ok ()), { l with entries := l.entries.insert key value })
  | .get key => (.value l.entries[key]?, l)
  | .delete key => (.verdict (l.entries.contains key), { l with entries := l.entries.erase key })
  | .addNode id _ _ =>
    if l.ids.contains id then (.verdict false, l)
    else (.verdict true, { l with ids := l.ids.insert id })
  | .removeNode id =>
    if l.ids.contains id then (.verdict true, { l with ids := l.ids.erase id })
    else (.verdict false, l)
  | .repair key => (.value l.entries[key]?, l)
  | .verify => (.verdict true, l)

/-- Answers requests one after the other. -/
def serveAll (l : Ledger) : List Request → List Answer × Ledger
  | [] => ([], l)
  | request :: requests =>
    let (answer, l) := l.serve request
    let (answers, l) := serveAll l requests
    (answer :: answers, l)

/-- Whether the request leaves an id if there is one: the only one is not to be removed. -/
def permits (l : Ledger) : Request → Bool
  | .removeNode id => !l.ids.contains id || !(l.ids.erase id).isEmpty
  | _ => true

/-- Whether each of the requests leaves an id if there is one. -/
def permitsAll (l : Ledger) : List Request → Bool
  | [] => true
  | request :: requests => l.permits request && permitsAll (l.serve request).2 requests

end Ledger

/-! ## The cluster -/

namespace Cluster

/-- Answers a request. -/
def answer (c : Cluster) : Request → Answer × Cluster
  | .put key value =>
    let (result, c) := c.put key value
    (.outcome result, c)
  | .get key =>
    let (found, c) := c.get key
    (.value found, c)
  | .delete key =>
    let (removed, c) := c.delete key
    (.verdict removed, c)
  | .addNode id host port =>
    let (added, c) := c.addNode id host port
    (.verdict added, c)
  | .removeNode id =>
    let (removed, c) := c.removeNode id
    (.verdict removed, c)
  | .repair key =>
    let (report, c) := c.repair key
    (.value report.value, c)
  | .verify =>
    let (report, c) := c.verify
    (.verdict report.isClean, c)

/-- Answers a request and works off the queue. -/
def serve (c : Cluster) (request : Request) : Answer × Cluster :=
  let (answer, c) := c.answer request
  (answer, c.drain)

/-- Answers requests one after the other. -/
def serveAll (c : Cluster) : List Request → List Answer × Cluster
  | [] => ([], c)
  | request :: requests =>
    let (answer, c) := c.serve request
    let (answers, c) := serveAll c requests
    (answer :: answers, c)

end Cluster

/-! ## The simulation -/

/-- The cluster holds the map on units of the ids. -/
structure Mirrors (ids : List String) (c : Cluster) (l : Ledger) : Prop where
  /-- The labels of the members do not meet. -/
  ring : c.fleet.ring.Apart ids
  /-- Units have positions. -/
  nodes : 0 < c.fleet.ring.virtualNodes
  /-- Keys have replicas. -/
  factor : 0 < c.replicationFactor
  /-- Writes are waited for. -/
  timed : 0 < c.writeTimeout
  /-- Tasks are taken. -/
  opened : c.closed = false
  /-- No task is left. -/
  idle : c.queue = []
  /-- All members are active. -/
  active : ∀ unit ∈ c.fleet.units, c.fleet.pool.isActive unit = true
  /-- The members are those with an id of the ledger. -/
  members : ∀ id, id ∈ c.fleet.ring.members ↔ id ∈ l.ids
  /-- The map is held by the replicas of its keys. -/
  holds : c.fleet.Holds c.replicationFactor l.entries

namespace Mirrors

variable {ids : List String} {c : Cluster} {l : Ledger} (h : Mirrors ids c l)
include h

theorem activeUnits : c.fleet.activeUnits = c.fleet.units :=
  List.filter_eq_self.2 h.active

theorem contains_ids (id : String) : l.ids.contains id = (c.fleet.ring.get? id).isSome := by
  rw [Bool.eq_iff_iff, Option.isSome_iff_ne_none, ne_eq, Ring.get?_eq_none_iff, not_not]
  exact (h.members id).symm

theorem mem_ids_iff {id : String} : id ∈ l.ids ↔ id ∈ c.fleet.units.map (·.id) := by
  have hcontains : id ∈ l.ids ↔ (c.fleet.ring.get? id).isSome = true :=
    h.contains_ids id ▸ Iff.rfl
  rw [hcontains, Option.isSome_iff_exists, List.mem_map]
  constructor
  · rintro ⟨u, hu⟩
    have hid := h.ring.sound.id_of_get? hu
    exact ⟨u, (Fleet.mem_units h.ring.sound).2 (by rw [hid, hu]), hid⟩
  · rintro ⟨u, hu, rfl⟩
    exact ⟨u, (Fleet.mem_units h.ring.sound).1 hu⟩

theorem length_units : c.fleet.units.length = l.ids.size := by
  have hperm : (c.fleet.units.map (·.id)).Perm l.ids.toList := by
    refine (List.perm_ext_iff_of_nodup ?_ ?_).2 fun id => ?_
    · exact List.pairwise_map.2 (Fleet.units_pairwise h.ring.sound)
    · exact Std.ExtTreeSet.distinct_toList.imp Std.ReflCmp.ne_of_cmp_ne_eq
    · rw [Std.ExtTreeSet.mem_toList]
      exact h.mem_ids_iff.symm
  rw [← Std.ExtTreeSet.length_toList, ← hperm.length_eq, List.length_map]

theorem length_replicas (key : String) :
    (c.replicas key).length = min c.replicationFactor l.ids.size := by
  rw [Cluster.replicas, Fleet.length_replicas h.ring.sound h.ring.undisputed h.nodes, h.activeUnits,
    h.length_units]

theorem replicas_eq_nil_iff {key : String} : c.replicas key = [] ↔ l.ids.isEmpty = true := by
  have := h.length_replicas key
  have := h.factor
  rw [← List.length_eq_zero_iff, Std.ExtTreeSet.isEmpty_eq_size_beq_zero, beq_iff_eq]
  omega

/-- The data may move while the ring and the active units are those of a fleet with these ids. -/
theorem settle {fleet final : Fleet} {metrics : Metrics} {registry : Registry}
    {known : Std.ExtTreeSet String} {entries : Contents} (hring : fleet.ring.Apart ids)
    (hnodes : fleet.ring.virtualNodes = c.fleet.ring.virtualNodes)
    (hactive : ∀ unit ∈ fleet.units, fleet.pool.isActive unit = true)
    (hmembers : ∀ id, id ∈ fleet.ring.members ↔ id ∈ known) (hshape : Fleet.SameShape fleet final)
    (hholds : final.Holds c.replicationFactor entries) :
    Mirrors ids { c with fleet := final, queue := [], metrics, registry }
      { ids := known, entries } where
  ring := hshape.ring ▸ hring
  nodes := by
    have := h.nodes
    rwa [← hnodes, ← hshape.ring] at this
  factor := h.factor
  timed := h.timed
  opened := h.opened
  idle := rfl
  active unit hunit := by
    rw [hshape.units] at hunit
    rw [hshape.active]
    exact hactive unit hunit
  members id := by
    rw [hshape.ring]
    exact hmembers id
  holds := hholds

/-- Work on the data that leaves the shape of the fleet alone and queues nothing. -/
theorem work {fleet : Fleet} {queue : List Task} {metrics : Metrics} {registry : Registry}
    {entries : Contents} (hqueue : queue = []) (hshape : Fleet.SameShape c.fleet fleet)
    (hholds : fleet.Holds c.replicationFactor entries) :
    Mirrors ids (Cluster.drain { c with fleet, queue, metrics, registry }) { l with entries } := by
  subst hqueue
  rw [Cluster.drain_of_queue_eq_nil rfl]
  exact h.settle h.ring rfl h.active h.members hshape hholds

/-! ## One operation -/

theorem put (key value : String) :
    (c.answer (.put key value)).1 = (l.serve (.put key value)).1 ∧
      Mirrors ids (c.answer (.put key value)).2.drain (l.serve (.put key value)).2 := by
  unfold Cluster.answer Ledger.serve
  dsimp only
  by_cases hids : l.ids.isEmpty = true
  · have hput : c.put key value = (.error .noActiveUnits, c.record (·.recordFailure)) := by
      rw [Cluster.put, Cluster.store, h.replicas_eq_nil_iff.2 hids, if_pos (by rfl)]
    rw [if_pos hids, hput]
    exact ⟨rfl, h.work h.idle (Fleet.SameShape.refl c.fleet) h.holds⟩
  · have hne : c.replicas key ≠ [] := fun hnone => hids (h.replicas_eq_nil_iff.1 hnone)
    obtain ⟨m, g, hsnd⟩ := Cluster.put_snd_of_open h.opened h.timed hne value
    rw [h.idle] at hsnd
    have hshape := Fleet.sameShape_storeOn c.fleet key value (c.replicas key)
    have hcopy : ∀ w j, (c.fleet.storeOn key value (c.replicas key)).2.copy w j =
        if w ∈ c.replicas key ∧ j = key then some value else c.fleet.copy w j := by
      intro w j
      rw [Fleet.copy_storeOn]
      by_cases hw : w ∈ c.replicas key
      · simp [hw, Fleet.isActive_of_mem_replicas h.ring.sound hw]
      · simp [hw]
    rw [if_neg hids, hsnd]
    refine ⟨congrArg _ (Cluster.put_fst_of_open h.ring.sound h.opened h.timed hne value), ?_⟩
    exact h.work rfl hshape (h.holds.insert hshape hne hcopy)

theorem get (key : String) :
    (c.answer (.get key)).1 = (l.serve (.get key)).1 ∧
      Mirrors ids (c.answer (.get key)).2.drain (l.serve (.get key)).2 := by
  obtain ⟨f, m, hsnd, hshape, hcopy⟩ := Cluster.get_snd c key
  have hfst := (Cluster.get_fst h.ring.sound key).trans (h.holds.findSome? h.ring.sound key)
  unfold Cluster.answer Ledger.serve
  dsimp only
  rw [hfst, hsnd]
  exact ⟨rfl, h.work h.idle hshape (h.holds.congr hshape hcopy)⟩

theorem delete (key : String) :
    (c.answer (.delete key)).1 = (l.serve (.delete key)).1 ∧
      Mirrors ids (c.answer (.delete key)).2.drain (l.serve (.delete key)).2 := by
  obtain ⟨f, m, hsnd, hshape, hcopy⟩ := Cluster.delete_snd h.ring.sound key
  have hfst := (Cluster.delete_fst h.ring.sound key).trans (h.holds.any h.ring.sound key)
  unfold Cluster.answer Ledger.serve
  dsimp only
  rw [hfst, hsnd]
  exact ⟨rfl, h.work h.idle hshape (h.holds.erase hshape hcopy)⟩

theorem repair (key : String) :
    (c.answer (.repair key)).1 = (l.serve (.repair key)).1 ∧
      Mirrors ids (c.answer (.repair key)).2.drain (l.serve (.repair key)).2 := by
  have hfst := (Fleet.value_repair h.ring.sound c.replicationFactor key).trans
    (h.holds.findSome? h.ring.sound key)
  refine ⟨congrArg _ hfst, h.work h.idle (Fleet.sameShape_repair _ _ _) ?_⟩
  exact h.holds.repair h.ring.sound key

theorem verify :
    (c.answer .verify).1 = (l.serve .verify).1 ∧
      Mirrors ids (c.answer .verify).2.drain (l.serve .verify).2 := by
  have hfst := h.holds.isClean_verify h.ring.sound h.ring.isConsistent
  refine ⟨congrArg _ hfst, h.work h.idle (Fleet.sameShape_verify _ _) ?_⟩
  exact h.holds.congr (Fleet.sameShape_verify _ _) (Fleet.copy_verify _ _)

theorem addNode {id : String} (hid : id ∈ ids) (host : String) (port : UInt16) :
    (c.answer (.addNode id host port)).1 = (l.serve (.addNode id host port)).1 ∧
      Mirrors ids (c.answer (.addNode id host port)).2.drain
        (l.serve (.addNode id host port)).2 := by
  unfold Cluster.answer Ledger.serve
  dsimp only
  cases hadd : c.fleet.add? { id, host, port } with
  | none =>
    have htaken : l.ids.contains id = true := (h.members id).1 (Fleet.add?_eq_none_iff.1 hadd)
    rw [Cluster.addNode_of_taken hadd, if_pos htaken]
    exact ⟨rfl, h.work h.idle (Fleet.SameShape.refl c.fleet) h.holds⟩
  | some added =>
    obtain ⟨unit, fleet⟩ := added
    obtain ⟨rfl, hadmission⟩ := Fleet.admission_of_add? hadd
    obtain ⟨hfst, -⟩ := Cluster.addNode_of_free hadd
    obtain ⟨m, g, hdrain⟩ := Cluster.drain_addNode h.opened h.idle hadd
    have hinsert := hadmission.inserted
    have hfree := (Ring.insert?_eq_some_iff.1 hinsert).1
    have hnew : l.ids.contains unit.id = false := by
      rw [h.contains_ids, Ring.get?_eq_none_iff.2 hfree, Option.isSome_none]
    have hmore := hadmission.oneMore h.ring.sound (h.ring.vacant hid hfree)
    have hholds := h.holds.migrate h.ring.sound hadmission hmore
    rw [hfst, hnew, if_neg (by simp), hdrain]
    refine ⟨rfl, h.settle (h.ring.insert? hinsert hid) (Ring.virtualNodes_insert? hinsert)
      (fun w hw => ?_) (fun id => ?_) (Fleet.sameShape_migrate fleet unit _) hholds⟩
    · rw [hadmission.active]
      rcases (hadmission.mem_units h.ring.sound).1 hw with hw | rfl
      · rw [h.active w hw, Bool.true_or]
      · rw [beq_self_eq_true, Bool.or_true]
    · rw [Std.ExtTreeSet.mem_insert, Std.LawfulEqCmp.compare_eq_iff_eq, eq_comm, ← h.members,
        ← Ring.mem_members_insert? hinsert]

/-- If an id is left, so is an active unit. -/
theorem activeUnits_ne_nil {unit : UnitRef} {fleet : Fleet}
    (hdeparture : Fleet.Departure c.fleet fleet unit)
    (hpermits : l.permits (.removeNode unit.id) = true) : fleet.activeUnits ≠ [] := by
  rw [Ledger.permits, h.contains_ids, hdeparture.registered, Option.isSome_some, Bool.not_true,
    Bool.false_or, Bool.not_eq_true'] at hpermits
  obtain ⟨other, hother⟩ : ∃ other, other ∈ l.ids.erase unit.id := by
    by_contra hnone
    refine Std.ExtTreeSet.isEmpty_eq_false_iff.1 hpermits ?_
    exact Std.ExtTreeSet.eq_empty_iff_forall_not_mem.2 fun a ha => hnone ⟨a, ha⟩
  rw [Std.ExtTreeSet.mem_erase, ne_eq, Std.LawfulEqCmp.compare_eq_iff_eq] at hother
  obtain ⟨u, hu, rfl⟩ := List.mem_map.1 (h.mem_ids_iff.1 hother.2)
  have hne : u ≠ unit := fun heq => hother.1 (congrArg UnitRef.id heq.symm)
  refine List.ne_nil_of_mem ((hdeparture.mem_activeUnits h.ring.sound).2 ⟨?_, hne⟩)
  exact Fleet.mem_activeUnits.2 ⟨hu, h.active u hu⟩

theorem removeNode {id : String} (hpermits : l.permits (.removeNode id) = true) :
    (c.answer (.removeNode id)).1 = (l.serve (.removeNode id)).1 ∧
      Mirrors ids (c.answer (.removeNode id)).2.drain (l.serve (.removeNode id)).2 := by
  unfold Cluster.answer Ledger.serve
  dsimp only
  rw [h.contains_ids]
  cases hget : c.fleet.ring.get? id with
  | none =>
    rw [Cluster.removeNode_of_absent hget, Option.isSome_none, if_neg (by simp)]
    exact ⟨rfl, h.work h.idle (Fleet.SameShape.refl c.fleet) h.holds⟩
  | some unit =>
    obtain ⟨hfst, -⟩ := Cluster.removeNode_of_present h.ring.sound hget
    obtain ⟨fleet, final, m, g, hdrain, hdeparture, hshape, hcopy⟩ :=
      Cluster.drain_removeNode h.ring.sound h.opened h.idle hget
    obtain rfl := h.ring.sound.id_of_get? hget
    have herase := hdeparture.erased
    have hring := h.ring.erase? herase
    have hnodes := Ring.virtualNodes_erase? herase
    have hleft := h.activeUnits_ne_nil hdeparture hpermits
    have hne := Fleet.replicas_ne_nil hring.sound hring.undisputed (hnodes ▸ h.nodes) h.factor hleft
    have hholds := h.holds.depart h.ring.sound hdeparture hshape hne (hcopy hleft)
    rw [hfst, Option.isSome_some, if_pos rfl, hdrain]
    refine ⟨rfl, h.settle hring hnodes (fun w hw => ?_) (fun id => ?_) hshape hholds⟩
    · obtain ⟨hw, hother⟩ := (hdeparture.mem_units h.ring.sound).1 hw
      rw [hdeparture.active, h.active w hw, bne_iff_ne.2 hother, Bool.true_and]
    · rw [Std.ExtTreeSet.mem_erase, ne_eq, Std.LawfulEqCmp.compare_eq_iff_eq, eq_comm,
        ← h.members, ← ne_eq, ← Ring.mem_members_erase? herase]

/-! ## Runs -/

theorem serve {request : Request} (hids : ∀ id ∈ request.admits, id ∈ ids)
    (hpermits : l.permits request = true) :
    (c.serve request).1 = (l.serve request).1 ∧
      Mirrors ids (c.serve request).2 (l.serve request).2 := by
  cases request with
  | put key value => exact h.put key value
  | get key => exact h.get key
  | delete key => exact h.delete key
  | addNode id host port => exact h.addNode (hids id (List.mem_singleton_self id)) host port
  | removeNode id => exact h.removeNode hpermits
  | repair key => exact h.repair key
  | verify => exact h.verify

omit h in
theorem serveAll (h : Mirrors ids c l) {requests : List Request}
    (hids : ∀ id ∈ requests.flatMap Request.admits, id ∈ ids)
    (hpermits : l.permitsAll requests = true) :
    (c.serveAll requests).1 = (l.serveAll requests).1 ∧
      Mirrors ids (c.serveAll requests).2 (l.serveAll requests).2 := by
  induction requests generalizing c l with
  | nil => exact ⟨rfl, h⟩
  | cons request requests ih =>
    obtain ⟨hfirst, hrest⟩ := Bool.and_eq_true_iff.1 hpermits
    obtain ⟨hanswer, hnext⟩ := h.serve (fun id hid => hids id (List.mem_append_left _ hid)) hfirst
    obtain ⟨hanswers, hlast⟩ := ih hnext (fun id hid => hids id (List.mem_append_right _ hid)) hrest
    exact ⟨congrArg₂ List.cons hanswer hanswers, hlast⟩

end Mirrors

theorem mirrors_empty {ids : List String} {virtualNodes replicationFactor writeTimeout : Nat}
    (hv : 0 < virtualNodes) (hr : 0 < replicationFactor) (ht : 0 < writeTimeout)
    (hapart : LabelsApart virtualNodes ids) :
    Mirrors ids (Cluster.empty virtualNodes replicationFactor writeTimeout) {} where
  ring := Ring.apart_empty hapart
  nodes := hv
  factor := hr
  timed := ht
  opened := rfl
  idle := rfl
  active unit hunit := by simp [Cluster.empty, Fleet.empty, Fleet.units, Ring.units] at hunit
  members id := by simp [Cluster.empty, Fleet.empty]
  holds := by
    refine ⟨fun unit hunit => ?_, fun key hkey => ?_⟩
    · simp [Cluster.empty, Fleet.empty, Fleet.units, Ring.units] at hunit
    · simp at hkey

theorem Ledger.permitsAll_take {l : Ledger} {requests : List Request}
    (h : l.permitsAll requests = true) (n : Nat) : l.permitsAll (requests.take n) = true := by
  induction requests generalizing l n with
  | nil => simp [permitsAll]
  | cons request requests ih =>
    obtain ⟨hfirst, hrest⟩ := Bool.and_eq_true_iff.1 h
    cases n with
    | zero => rfl
    | succ n => exact Bool.and_eq_true_iff.2 ⟨hfirst, ih hrest n⟩

/-! ## What is seen of the map -/

/-- The cluster has a member for each id, holds each key on its replicas and nowhere else, and says
so in its reports. -/
structure Shows (c : Cluster) (l : Ledger) : Prop where
  /-- The members are those with an id of the ledger. -/
  members : ∀ id, c.fleet.ring.contains id = l.ids.contains id
  /-- The replicas of a key hold its entry, and the other members hold nothing. -/
  holders : ∀ unit ∈ c.fleet.units, ∀ key, c.fleet.copy unit key =
    if unit ∈ c.replicas key then l.entries[key]? else none
  /-- A verification finds nothing wrong. -/
  clean : c.verify.1.isClean = true
  /-- Every key is counted once. -/
  uniqueKeys : c.status.uniqueKeys = l.entries.size
  /-- Every replica of a key is counted. -/
  totalKeys : c.status.totalKeys =
    l.entries.size * min c.replicationFactor c.status.totalUnits

theorem Mirrors.shows {ids : List String} {c : Cluster} {l : Ledger} (h : Mirrors ids c l) :
    Shows c l where
  members id := Bool.eq_iff_iff.2 (h.members id)
  holders := h.holds.copy
  clean := h.holds.isClean_verify h.ring.sound h.ring.isConsistent
  uniqueKeys := h.holds.size_storedKeys h.ring.sound
  totalKeys := by
    have hsum := h.holds.sum_sizes h.ring.sound h.length_replicas
    rw [← h.length_units, List.sum_eq_foldl, List.foldl_map] at hsum
    rw [Cluster.status, Fleet.distribution, List.foldl_map]
    exact hsum

/-- From an empty cluster, requests are answered as the map answers them, and after each of them the
cluster shows the map, if the only unit is never removed and no labels of the ids meet. -/
theorem Cluster.serveAll_refines {virtualNodes replicationFactor writeTimeout : Nat}
    {requests : List Request} (hv : 0 < virtualNodes) (hr : 0 < replicationFactor)
    (ht : 0 < writeTimeout)
    (hapart : LabelsApart virtualNodes (requests.flatMap Request.admits))
    (hpermits : ({} : Ledger).permitsAll requests = true) :
    let c := Cluster.empty virtualNodes replicationFactor writeTimeout
    (c.serveAll requests).1 = (({} : Ledger).serveAll requests).1 ∧
      ∀ n, Shows (c.serveAll (requests.take n)).2 (({} : Ledger).serveAll (requests.take n)).2 := by
  intro c
  have hempty := mirrors_empty hv hr ht hapart
  refine ⟨(hempty.serveAll (fun _ hid => hid) hpermits).1, fun n => ?_⟩
  have hids : ∀ id ∈ (requests.take n).flatMap Request.admits,
      id ∈ requests.flatMap Request.admits := by
    intro id hid
    obtain ⟨request, hrequest, hid⟩ := List.mem_flatMap.1 hid
    exact List.mem_flatMap.2 ⟨request, List.mem_of_mem_take hrequest, hid⟩
  exact (hempty.serveAll hids (Ledger.permitsAll_take hpermits n)).2.shows

/-- Two replicas of each key, on units that come, go and come back. -/
theorem Cluster.serveAll_refines_return :
    let requests : List Request := [.put "x" "lost", .addNode "a" "localhost" 1, .put "x" "1",
      .addNode "b" "localhost" 2, .put "y" "2", .addNode "c" "localhost" 3, .removeNode "a",
      .get "x", .addNode "a" "localhost" 4, .delete "y", .repair "x", .removeNode "b", .verify]
    let c := Cluster.empty 2 2 5000
    (c.serveAll requests).1 = (({} : Ledger).serveAll requests).1 ∧
      ∀ n, Shows (c.serveAll (requests.take n)).2 (({} : Ledger).serveAll (requests.take n)).2 :=
  Cluster.serveAll_refines (by decide) (by decide) (by decide) (by decide +kernel)
    (by decide +kernel)

end QuorumRing
