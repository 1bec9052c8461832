import QuorumRing.Cluster.Status
import QuorumRing.Proofs.Cluster.Acts
import QuorumRing.Proofs.Fleet.Mending
import QuorumRing.Proofs.Fleet.Verdicts

/-!
# Verifying and repairing a cluster

A verification sorts the stored keys into four classes by what their replicas hold, and changes
nothing but the counters of the units (`Session.verify_classifies`).

A sweep repairs one key after the other. The repair of a key leaves the copies of all others alone and
brings to its replicas what a read finds, so that a read finds the same as before. Hence every repair
of a sweep meets its key as it was when the sweep began, whatever the order, and in the end the
replicas of every key agree (`Cluster.copy_sweep`). What was orphaned stays so, since a repair does not
look beyond the replicas.
-/

namespace QuorumRing

namespace Cluster

variable {c : Cluster} {keys : List String}

/-- Repairs the keys one after the other. -/
def sweep (c : Cluster) : List String → List RepairReport × Cluster
  | [] => ([], c)
  | key :: keys =>
    let (report, c) := c.repair key
    let (reports, c) := sweep c keys
    (report :: reports, c)

/-! ## One repair -/

theorem sound_repair (hs : c.fleet.ring.Sound) (key : String) :
    (c.repair key).2.fleet.ring.Sound := by
  have hring : (c.repair key).2.fleet.ring = c.fleet.ring := (Fleet.sameShape_repair _ _ _).ring
  rw [hring]
  exact hs

theorem replicas_repair (c : Cluster) (key j : String) :
    (c.repair key).2.replicas j = c.replicas j :=
  (Fleet.sameShape_repair c.fleet key c.replicationFactor).replicas j _

theorem copy_repair (hs : c.fleet.ring.Sound) (key : String) (w : UnitRef) (j : String) :
    (c.repair key).2.fleet.copy w j =
      if j = key ∧ w ∈ c.replicas key then (c.get key).1 else c.fleet.copy w j := by
  have hcopy := Fleet.copy_repair hs c.replicationFactor key w j
  rw [get_fst hs]
  refine hcopy.trans (if_congr And.comm rfl rfl)

/-- A repair changes no answer. -/
theorem get_repair (hs : c.fleet.ring.Sound) (key j : String) :
    ((c.repair key).2.get j).1 = (c.get j).1 := by
  rw [get_fst (sound_repair hs key), replicas_repair]
  by_cases hj : j = key
  · subst hj
    refine Fleet.findSome?_eq_of_forall (fun u hu => ?_) fun hnil => ?_
    · rw [copy_repair hs, if_pos ⟨rfl, hu⟩]
    · rw [get_fst hs, hnil, List.findSome?_nil]
  · have hcopy : ∀ u, (c.repair key).2.fleet.copy u j = c.fleet.copy u j := by
      intro u
      rw [copy_repair hs, if_neg fun h => hj h.1]
    simp only [hcopy]
    exact (get_fst hs j).symm

/-! ## A sweep -/

theorem sameShape_sweep (c : Cluster) (keys : List String) :
    Fleet.SameShape c.fleet (c.sweep keys).2.fleet ∧
      (c.sweep keys).2.replicationFactor = c.replicationFactor := by
  induction keys generalizing c with
  | nil => exact ⟨Fleet.SameShape.refl _, rfl⟩
  | cons key keys ih =>
    have hfirst := Fleet.sameShape_repair c.fleet key c.replicationFactor
    obtain ⟨hshape, hfactor⟩ := ih (c.repair key).2
    exact ⟨hfirst.trans hshape, hfactor⟩

theorem replicas_sweep (c : Cluster) (keys : List String) (j : String) :
    (c.sweep keys).2.replicas j = c.replicas j := by
  obtain ⟨hshape, hfactor⟩ := sameShape_sweep c keys
  rw [replicas, hfactor]
  exact hshape.replicas j _

theorem sound_sweep (hs : c.fleet.ring.Sound) (keys : List String) :
    (c.sweep keys).2.fleet.ring.Sound := by
  have hring := (sameShape_sweep c keys).1.ring
  rw [hring]
  exact hs

theorem get_sweep (hs : c.fleet.ring.Sound) (keys : List String) (j : String) :
    ((c.sweep keys).2.get j).1 = (c.get j).1 := by
  induction keys generalizing c with
  | nil => rfl
  | cons key keys ih =>
    have htail := ih (sound_repair hs key)
    exact htail.trans (get_repair hs key j)

/-- After a sweep the replicas of the keys hold what a read finds, and that is all that has changed. -/
theorem copy_sweep (hs : c.fleet.ring.Sound) (keys : List String) (w : UnitRef) (j : String) :
    (c.sweep keys).2.fleet.copy w j =
      if j ∈ keys ∧ w ∈ c.replicas j then (c.get j).1 else c.fleet.copy w j := by
  induction keys generalizing c with
  | nil => simp [sweep]
  | cons key keys ih =>
    have htail := ih (sound_repair hs key)
    refine htail.trans ?_
    rw [replicas_repair, get_repair hs, copy_repair hs]
    by_cases hj : j = key
    · subst hj
      by_cases hw : w ∈ c.replicas j <;> simp [hw]
    · simp [hj]

/-- If no key occurs twice, each is reported on as it was when the sweep began. -/
theorem sweep_fst (hs : c.fleet.ring.Sound) (hkeys : keys.Nodup) :
    (c.sweep keys).1 = keys.map fun key =>
      .ofCopies key (c.replicas key) (c.fleet.copy · key) (c.get key).1 := by
  induction keys generalizing c with
  | nil => rfl
  | cons key keys ih =>
    obtain ⟨hnew, hkeys⟩ := List.nodup_cons.1 hkeys
    have hhead := Fleet.repair_fst hs c.replicationFactor key
    have htail := ih (sound_repair hs key) hkeys
    have hrest : ∀ j ∈ keys, RepairReport.ofCopies j ((c.repair key).2.replicas j)
        ((c.repair key).2.fleet.copy · j) ((c.repair key).2.get j).1 =
          .ofCopies j (c.replicas j) (c.fleet.copy · j) (c.get j).1 := by
      intro j hj
      have hne : j ≠ key := fun heq => hnew (heq ▸ hj)
      have hcopy : ∀ u, (c.repair key).2.fleet.copy u j = c.fleet.copy u j := by
        intro u
        rw [copy_repair hs, if_neg fun h => hne h.1]
      simp only [hcopy, replicas_repair, get_repair hs]
    rw [List.map_congr_left hrest] at htail
    rw [List.map_cons, get_fst hs]
    exact congrArg₂ List.cons hhead htail

/-- A unit that is no replica of any of the keys is not even asked. -/
theorem get_sweep_of_not_mem (hs : c.fleet.ring.Sound) {unit : UnitRef}
    (h : ∀ key ∈ keys, unit ∉ c.replicas key) :
    (c.sweep keys).2.fleet.get unit = c.fleet.get unit := by
  induction keys generalizing c with
  | nil => rfl
  | cons key keys ih =>
    obtain ⟨hfirst, hrest⟩ := List.forall_mem_cons.1 h
    have hasked : (c.repair key).2.fleet.get unit = c.fleet.get unit :=
      Fleet.get_repair_of_not_mem hs hfirst
    have htail := ih (sound_repair hs key) fun j hj => by
      rw [replicas_repair]
      exact hrest j hj
    exact htail.trans hasked

/-- Where the replicas of every key agree, there is nothing to repair. -/
theorem repaired_sweep (hs : c.fleet.ring.Sound)
    (hagree : ∀ key, ∀ u ∈ c.replicas key, c.fleet.copy u key = (c.get key).1)
    (keys : List String) : ∀ report ∈ (c.sweep keys).1, report.repaired = [] := by
  induction keys generalizing c with
  | nil => exact fun report hmem => absurd hmem List.not_mem_nil
  | cons key keys ih =>
    have hhead : (c.repair key).1.repaired = [] := by
      have hreport : (c.repair key).1 = _ := Fleet.repair_fst hs c.replicationFactor key
      rw [hreport]
      refine RepairReport.repaired_ofCopies (fun u hu => ?_) key
      exact (hagree key u hu).trans (get_fst hs key)
    have htail := @ih (c.repair key).2 (sound_repair hs key) fun j u hu => by
      rw [replicas_repair] at hu
      rw [get_repair hs, copy_repair hs]
      split
      next h => rw [h.1]
      · exact hagree j u hu
    intro report hmem
    rcases List.mem_cons.1 hmem with rfl | hmem
    · exact hhead
    · exact htail report hmem

/-- A sweep neither brings up a key nor loses one. -/
theorem storedKeys_sweep (hs : c.fleet.ring.Sound) (keys : List String) :
    (c.sweep keys).2.fleet.storedKeys = c.fleet.storedKeys := by
  have hunits := (sameShape_sweep c keys).1.units
  refine Std.ExtTreeSet.ext_mem fun key => ?_
  rw [Fleet.mem_storedKeys, Fleet.mem_storedKeys, hunits]
  constructor
  · rintro ⟨w, hw, hsome⟩
    rw [copy_sweep hs] at hsome
    split at hsome
    · -- what was read came from a replica
      rw [get_fst hs, List.findSome?_isSome_iff] at hsome
      obtain ⟨u, hu, hheld⟩ := hsome
      exact ⟨u, Fleet.mem_units_of_mem_replicas hs hu, hheld⟩
    · exact ⟨w, hw, hsome⟩
  · rintro ⟨w, hw, hsome⟩
    refine ⟨w, hw, ?_⟩
    rw [copy_sweep hs]
    split
    next h =>
      rw [get_fst hs, List.findSome?_isSome_iff]
      exact ⟨w, h.2, hsome⟩
    · exact hsome

end Cluster

/-! ## Replicas that agree -/

namespace KeyHealth

variable {units : List UnitRef} {held held' : UnitRef → Option String} {found : Option String}

theorem not_divergent_of_agreement (h : ∀ u ∈ units, held u = found) :
    ¬divergent.Describes units held := by
  rintro ⟨u, hu, w, hw, v, v', hv, hv', hne⟩
  have hsame : some v = some v' := by rw [← hv, ← hv', h u hu, h w hw]
  exact hne (Option.some.inj hsame)

theorem not_underReplicated_of_agreement (h : ∀ u ∈ units, held u = found) :
    ¬underReplicated.Describes units held := by
  rintro ⟨⟨u, hu, hsome⟩, -, w, hw, hnone⟩
  have hsame : held u = held w := (h u hu).trans (h w hw).symm
  exact hsome (hsame.trans hnone)

/-- The units hold nothing after they have taken over what they found, if and only if they held
nothing before. -/
theorem orphaned_iff_of_agreement (h : ∀ u ∈ units, held' u = units.findSome? held) :
    orphaned.Describes units held' ↔ orphaned.Describes units held := by
  constructor
  · intro hnone u hu
    have hfound : units.findSome? held = none := (h u hu).symm.trans (hnone u hu)
    exact List.findSome?_eq_none_iff.1 hfound u hu
  · intro hnone u hu
    exact (h u hu).trans (List.findSome?_eq_none_iff.2 hnone)

end KeyHealth

namespace Cluster

variable {c c' : Cluster} {condition : KeyHealth}

theorem number_verify (hs : c.fleet.ring.Sound) (condition : KeyHealth) :
    c.verify.1.number condition = (c.fleet.storedKeys.toList.filter fun key =>
      condition.Describes (c.replicas key) (c.fleet.copy · key)).length := by
  have hnumber := Fleet.number_verify hs c.replicationFactor condition
  rw [← Std.ExtTreeSet.length_toList, Std.ExtTreeSet.toList_filter] at hnumber
  exact hnumber

/-- A condition that describes the same keys as before has the same number. -/
theorem number_verify_congr (hs : c.fleet.ring.Sound) (hs' : c'.fleet.ring.Sound)
    (hstored : c'.fleet.storedKeys = c.fleet.storedKeys)
    (h : ∀ key, condition.Describes (c'.replicas key) (c'.fleet.copy · key) ↔
      condition.Describes (c.replicas key) (c.fleet.copy · key)) :
    c'.verify.1.number condition = c.verify.1.number condition := by
  rw [number_verify hs, number_verify hs', hstored]
  exact congrArg List.length (List.filter_congr fun key _ => decide_eq_decide.2 (h key))

/-- A condition that describes no key has the number zero. -/
theorem number_verify_eq_zero (hs : c.fleet.ring.Sound)
    (h : ∀ key, ¬condition.Describes (c.replicas key) (c.fleet.copy · key)) :
    c.verify.1.number condition = 0 := by
  rw [number_verify hs, List.length_eq_zero_iff]
  exact List.filter_eq_nil_iff.2 fun key _ => by simpa using h key

/-- After a sweep over all stored keys the replicas of every key agree on what was found before. -/
theorem copy_sweep_of_stored (hs : c.fleet.ring.Sound) {keys : List String}
    (hkeys : ∀ key ∈ c.fleet.storedKeys, key ∈ keys) {key : String} {u : UnitRef}
    (hu : u ∈ c.replicas key) : (c.sweep keys).2.fleet.copy u key = (c.get key).1 := by
  rw [copy_sweep hs]
  by_cases hkey : key ∈ keys
  · rw [if_pos ⟨hkey, hu⟩]
  · -- of a key that is not stored there are no copies on which the replicas could differ
    have hnone : ∀ w ∈ c.replicas key, c.fleet.copy w key = none := by
      intro w hw
      by_contra hsome
      have hmember := Fleet.mem_units_of_mem_replicas hs hw
      have hheld := Option.isSome_iff_ne_none.2 hsome
      exact hkey (hkeys key (Fleet.mem_storedKeys.2 ⟨w, hmember, hheld⟩))
    rw [if_neg fun h => hkey h.1, hnone u hu, get_fst hs, List.findSome?_eq_none_iff.2 hnone]

end Cluster

namespace Session

variable (virtualNodes replicationFactor writeTimeout : Nat) (units : List UnitSpec)

/-- A verification counts the distinct keys held by registered units, active or not, and sorts them by
what the replicas of each hold, whatever has happened before. It finds the cluster clean if the ring
is consistent and all keys are healthy, and changes neither entries nor members nor liveness. -/
theorem verify_classifies (acts : List Act) :
    let c := ((start virtualNodes replicationFactor writeTimeout units).play acts).cluster
    let report := c.verify.1
    let after := c.verify.2
    let keys := c.fleet.storedKeys
    (∀ key, key ∈ keys ↔ ∃ unit ∈ c.fleet.units, key ∈ (c.fleet.get unit).contents) ∧
      report.totalKeys = keys.size ∧ report.totalKeys = c.status.uniqueKeys ∧
      report.healthy + report.underReplicated + report.divergent + report.orphaned =
        report.totalKeys ∧
      (∀ key condition, (c.fleet.inspect key c.replicationFactor).1 = condition ↔
        condition.Describes (c.replicas key) (c.fleet.copy · key)) ∧
      (∀ condition, report.number condition = (keys.filter fun key =>
        condition.Describes (c.replicas key) (c.fleet.copy · key)).size) ∧
      (report.isClean = true ↔ c.fleet.ring.isConsistent = true ∧
        ∀ key ∈ keys, KeyHealth.healthy.Describes (c.replicas key) (c.fleet.copy · key)) ∧
      after.fleet.ring = c.fleet.ring ∧ after.fleet.pool.isActive = c.fleet.pool.isActive ∧
      ∀ unit, (after.fleet.get unit).contents = (c.fleet.get unit).contents := by
  intro c report after keys
  have hs : c.fleet.ring.Sound :=
    sound_play (working_start virtualNodes replicationFactor writeTimeout units).sound acts
  have hshape := Fleet.sameShape_verify c.fleet c.replicationFactor
  have htotal : report.totalKeys = keys.size := Fleet.totalKeys_verify hs _
  refine ⟨fun key => ?_, htotal, htotal, Fleet.sum_verify hs _, fun key condition => ?_,
    Fleet.number_verify hs _, Fleet.isClean_verify_iff hs _, hshape.ring, hshape.active,
    fun unit => ?_⟩
  · refine Fleet.mem_storedKeys.trans (exists_congr fun unit => and_congr_right fun _ => ?_)
    exact Std.ExtTreeMap.mem_iff_isSome_getElem?.symm
  · rw [Fleet.inspect_fst hs]
    exact Fleet.health_eq_iff
  · exact Fleet.contents_of_copy fun key => Fleet.copy_verify c.fleet _ unit key

/-- A sweep over all stored keys, in whatever order, reports on each key as it was at the beginning
and writes to replicas only. Afterwards all reads find what they found before, no replicas lack a key
or disagree on one, as many keys are orphaned as before, and there is nothing left to repair. -/
theorem sweep_converges (acts : List Act) (keys : List String) :
    let c := ((start virtualNodes replicationFactor writeTimeout units).play acts).cluster
    let after := (c.sweep keys).2
    keys.Perm c.fleet.storedKeys.toList →
    (c.sweep keys).1 = (keys.map fun key => RepairReport.ofCopies key (c.replicas key)
        (c.fleet.copy · key) (c.get key).1) ∧
      (∀ unit key, after.fleet.copy unit key ≠ c.fleet.copy unit key →
        key ∈ keys ∧ unit ∈ c.replicas key) ∧
      (∀ unit, (∀ key ∈ keys, unit ∉ c.replicas key) →
        after.fleet.get unit = c.fleet.get unit) ∧
      (∀ key, (after.get key).1 = (c.get key).1) ∧
      after.verify.1.underReplicated = 0 ∧ after.verify.1.divergent = 0 ∧
      after.verify.1.orphaned = c.verify.1.orphaned ∧
      after.verify.1.totalKeys = c.verify.1.totalKeys ∧
      ∀ again, ∀ report ∈ (after.sweep again).1, report.repaired = [] := by
  intro c after hkeys
  have hs : c.fleet.ring.Sound :=
    sound_play (working_start virtualNodes replicationFactor writeTimeout units).sound acts
  have hs' : after.fleet.ring.Sound := Cluster.sound_sweep hs keys
  have hstored : after.fleet.storedKeys = c.fleet.storedKeys := Cluster.storedKeys_sweep hs keys
  have hreplicas : ∀ key, after.replicas key = c.replicas key := Cluster.replicas_sweep c keys
  have hagree : ∀ key, ∀ u ∈ c.replicas key, after.fleet.copy u key = (c.get key).1 := by
    intro key u hu
    refine Cluster.copy_sweep_of_stored hs (fun j hj => ?_) hu
    exact hkeys.mem_iff.2 (Std.ExtTreeSet.mem_toList.2 hj)
  have hnodup : keys.Nodup :=
    hkeys.nodup_iff.2 (Std.ExtTreeSet.distinct_toList.imp Std.ReflCmp.ne_of_cmp_ne_eq)
  have hunder : after.verify.1.number .underReplicated = 0 := by
    refine Cluster.number_verify_eq_zero hs' fun key => ?_
    rw [hreplicas]
    exact KeyHealth.not_underReplicated_of_agreement (hagree key)
  have hdivergent : after.verify.1.number .divergent = 0 := by
    refine Cluster.number_verify_eq_zero hs' fun key => ?_
    rw [hreplicas]
    exact KeyHealth.not_divergent_of_agreement (hagree key)
  have horphaned : after.verify.1.number .orphaned = c.verify.1.number .orphaned := by
    refine Cluster.number_verify_congr hs hs' hstored fun key => ?_
    rw [hreplicas]
    refine KeyHealth.orphaned_iff_of_agreement fun u hu => ?_
    rw [hagree key u hu, Cluster.get_fst hs]
  have htotal : after.verify.1.totalKeys = c.verify.1.totalKeys := by
    have hbefore : c.verify.1.totalKeys = c.fleet.storedKeys.size := Fleet.totalKeys_verify hs _
    have hafter : after.verify.1.totalKeys = after.fleet.storedKeys.size :=
      Fleet.totalKeys_verify hs' _
    rw [hbefore, hafter, hstored]
  refine ⟨Cluster.sweep_fst hs hnodup, fun unit key hne => ?_, fun unit hunit => ?_, fun key => ?_,
    hunder, hdivergent, horphaned, htotal, fun again => ?_⟩
  · by_contra hnot
    refine hne ?_
    rw [Cluster.copy_sweep hs, if_neg hnot]
  · exact Cluster.get_sweep_of_not_mem hs hunit
  · exact Cluster.get_sweep hs keys key
  · refine Cluster.repaired_sweep hs' (fun key u hu => ?_) again
    rw [hreplicas] at hu
    rw [hagree key u hu, Cluster.get_sweep hs]

/-- One key is divergent, one is under-replicated, and one is held by an inactive unit only. -/
theorem sweep_converges_unsorted :
    let c := ((start 1 2 5000 [⟨"a", "localhost", 8000⟩, ⟨"b", "localhost", 8001⟩,
      ⟨"c", "localhost", 8002⟩]).play [.request ⟨"a", 0⟩ (.put "y" "v"),
        .request ⟨"c", 2⟩ (.put "x" "v"), .request ⟨"b", 1⟩ (.put "x" "w"),
        .request ⟨"b", 1⟩ (.put "n" "v"), .event (.switch "a" false)]).cluster
    let keys := ["y", "x", "n"]
    let after := (c.sweep keys).2
    keys.Perm c.fleet.storedKeys.toList ∧
      c.verify.1.underReplicated = 1 ∧ c.verify.1.divergent = 1 ∧ c.verify.1.orphaned = 1 ∧
      (c.sweep keys).1.map (·.repaired) = [[], ["b"], ["c"]] ∧
      after.verify.1.underReplicated = 0 ∧ after.verify.1.divergent = 0 ∧
      after.verify.1.orphaned = c.verify.1.orphaned ∧
      ∀ key, (after.get key).1 = (c.get key).1 := by
  intro c keys after
  have h : keys.Perm c.fleet.storedKeys.toList ∧ c.verify.1.underReplicated = 1 ∧
      c.verify.1.divergent = 1 ∧ c.verify.1.orphaned = 1 ∧
      (c.sweep keys).1.map (·.repaired) = [[], ["b"], ["c"]] := by
    decide +kernel
  obtain ⟨hkeys, hunder, hdivergent, horphaned, hrepaired⟩ := h
  subst after c
  obtain ⟨-, -, -, hget, hunder', hdivergent', horphaned', -⟩ :=
    sweep_converges 1 2 5000 _ _ keys hkeys
  exact ⟨hkeys, hunder, hdivergent, horphaned, hrepaired, hunder', hdivergent', horphaned', hget⟩

end Session

end QuorumRing
