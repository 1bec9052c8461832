import QuorumRing.Proofs.Fleet.Verdicts
import QuorumRing.Proofs.Ring.Lookups
import QuorumRing.Proofs.Simulation.Load

/-!
# What a load comes to

Every course of a load can be continued until the load is complete, since each move that has an
effect leaves fewer to make (`Load.remaining`). A complete load has stored every key on all of its
replicas, and its report says so (`SimulationReport.Flawless`); which writer has stored a key, and
when, can no longer be told.
-/

namespace QuorumRing

open Simulation

/-- The report of a load of so many keys with so many copies of each, without failures. -/
structure SimulationReport.Flawless (report : SimulationReport) (keys copies : Nat) : Prop where
  failedWrites : report.failedWrites = 0
  uniqueKeys : report.status.uniqueKeys = keys
  writes : report.metrics.writes = keys
  totalKeys : report.status.totalKeys = keys * copies
  operations : Tally.total report.metrics.nodeOperations = keys * copies
  ownership : (report.primaryOwnership.map Prod.snd).sum = 10000

/-- A unit is closest to a key that has a replica. -/
theorem Ring.locate_ne_none {ring : Ring} {active : UnitRef → Bool} {key : String} {r : Nat}
    (hs : ring.Sound) (hne : ring.replicaSet active key r ≠ []) : ring.locate active key ≠ none := by
  obtain ⟨unit, hunit⟩ := List.exists_mem_of_ne_nil _ hne
  rw [replicaSet_eq hs] at hunit
  obtain ⟨horder, hactive⟩ := List.mem_filter.1 (List.mem_of_mem_take hunit)
  intro hnone
  exact List.find?_eq_none.1 hnone unit (mem_of_mem_distinct horder) hactive

namespace Load

variable {ids : List String} {known : Std.ExtTreeSet String} {c : Cluster} {l : Load}
  {keys writers writer i : Nat} {rest : List Nat} {w : Writing}

namespace Steady

section Complete

variable (h : Steady c keys writers l) (hm : Mirrors ids c { ids := known })
  (hdone : l.IsComplete)
include h hm hdone

/-! ## Complete loads -/

/-- Every key was written to all of its replicas, by one task each. -/
theorem outcomes_of_complete (hi : i < keys) : ∃ w, l.writings i = some w ∧ Prospers c i w ∧
    (w.outcomes.map Prod.fst).Perm (c.replicas (keyOf i)) := by
  have hbegun := h.begun i hi (hdone.1 _ ▸ List.not_mem_nil)
  obtain ⟨w, hsome⟩ := Option.isSome_iff_exists.1 hbegun
  obtain ⟨-, hw⟩ := h.writing i w hsome
  have hnodup := Fleet.nodup_replicas hm.ring.sound (keyOf i) c.replicationFactor
  exact ⟨w, hsome, hw, hw.outcomes_perm (hdone.2 i w hsome) hnodup⟩

theorem copy_of_complete (unit : UnitRef) (key : String) : l.cluster.fleet.copy unit key =
    if unit ∈ c.replicas key then (entries keys)[key]? else none := by
  by_cases hkey : ∃ i, key = keyOf i
  · obtain ⟨i, rfl⟩ := hkey
    rw [h.copies, getElem?_entries_keyOf]
    by_cases hi : i < keys
    · obtain ⟨w, hsome, hw, hperm⟩ := h.outcomes_of_complete hm hdone hi
      simp only [outcomes_of_writing hsome, hw.acknowledged_iff, hperm.mem_iff, if_pos hi]
    · have hnone : l.writings i = none := by
        rw [Option.eq_none_iff_forall_ne_some]
        exact fun w hsome => hi (h.writing i w hsome).1
      rw [outcomes_of_no_writing hnone, if_neg List.not_mem_nil, if_neg hi, ite_self]
  · have hother : ∀ i, key ≠ keyOf i := fun i heq => hkey ⟨i, heq⟩
    rw [h.others key hother, getElem?_entries_of_ne hother, ite_self]

/-- The cluster of a complete load mirrors a ledger with all entries. -/
theorem mirrors (hne : ∀ key, c.replicas key ≠ []) :
    Mirrors ids l.cluster { ids := known, entries := entries keys } := by
  obtain ⟨fleet, metrics, heq⟩ := h.cluster
  have hfleet : l.cluster.fleet = fleet := by rw [heq]
  have hshape := hfleet ▸ h.shape
  have hcopy := h.copy_of_complete hm hdone
  rw [hfleet] at hcopy
  have hholds : fleet.Holds c.replicationFactor (entries keys) := by
    constructor
    · intro unit _ key
      rw [hcopy, hshape.replicas]
      rfl
    · intro key _
      rw [hshape.replicas]
      exact hne key
  have hsettled : Mirrors ids { c with fleet, queue := [], metrics }
      { ids := known, entries := entries keys } :=
    hm.settle hm.ring rfl hm.active hm.members hshape hholds
  rw [← hm.idle] at hsettled
  rw [heq]
  exact hsettled

theorem flawless (hne : ∀ key, c.replicas key ≠ []) :
    l.report.Flawless keys (min c.replicationFactor known.size) := by
  have hfinal := h.mirrors hm hdone hne
  have hshows := hfinal.shows
  have hfactor : l.cluster.replicationFactor = c.replicationFactor := by
    obtain ⟨fleet, metrics, heq⟩ := h.cluster
    rw [heq]
  constructor
  case failedWrites => exact h.failed
  case uniqueKeys => exact hshows.uniqueKeys.trans (size_entries keys)
  case writes =>
    have hwrites := h.writes
    simp only [hdone.1, List.length_nil, Finset.sum_const_zero, Nat.add_zero] at hwrites
    exact hwrites
  case totalKeys =>
    have hunits : l.cluster.status.totalUnits = known.size := hfinal.length_units
    have htotal := hshows.totalKeys
    rwa [size_entries, hfactor, hunits] at htotal
  case operations =>
    have houtcomes : ∀ i ∈ Finset.range keys,
        (l.outcomes i).length = min c.replicationFactor known.size := by
      intro i hi
      obtain ⟨w, hsome, -, hperm⟩ := h.outcomes_of_complete hm hdone (Finset.mem_range.1 hi)
      rw [outcomes_of_writing hsome, ← hm.length_replicas (keyOf i), ← hperm.length_eq,
        List.length_map]
    refine h.operations.trans ?_
    rw [Finset.sum_congr rfl houtcomes, Finset.sum_const, Finset.card_range, smul_eq_mul]
  case ownership =>
    have hlocate : ∀ key,
        l.cluster.fleet.ring.locate l.cluster.fleet.pool.isActive key ≠ none := fun key =>
      Ring.locate_ne_none hfinal.ring.sound (h.replicas key ▸ hne key)
    have htotal := Ring.total_keyDistribution hlocate 10000
    rw [Tally.total] at htotal
    simp only [report]
    exact htotal

end Complete

end Steady

/-! ## Loads that are not complete -/

/-- How many moves the write of a key to `n` replicas takes at most from now on, without the last
one of its writer. -/
def effort (n : Nat) : Option Writing → Nat
  | none => 2 * n + 1
  | some w => (n - w.outcomes.length) + (n - w.received.length)

/-- How many moves a load takes at most from now on. -/
def remaining (c : Cluster) (keys writers : Nat) (l : Load) : Nat :=
  ∑ writer ∈ Finset.range writers, (l.todo writer).length +
    ∑ i ∈ Finset.range keys, effort (c.replicas (keyOf i)).length (l.writings i)

theorem remaining_of_update {l' : Load} (hi : i < keys) (htodo : l'.todo = l.todo)
    {writing : Option Writing} (hwritings : l'.writings = Function.update l.writings i writing)
    (hless : effort (c.replicas (keyOf i)).length writing <
      effort (c.replicas (keyOf i)).length (l.writings i)) :
    l'.remaining c keys writers < l.remaining c keys writers := by
  have hsum := sum_update (fun i => effort (c.replicas (keyOf i)).length) l.writings
    (Finset.mem_range.2 hi) writing
  rw [remaining, remaining, htodo, hwritings]
  omega

theorem Prospers.length_outcomes_lt {target : UnitRef} (hw : Prospers c i w)
    (hrunning : w.isRunning target = true) :
    w.outcomes.length < (c.replicas (keyOf i)).length := by
  obtain ⟨htarget, hfresh⟩ := Writing.isRunning_iff.1 hrunning
  have hnodup : (target :: w.outcomes.map Prod.fst).Nodup :=
    List.nodup_cons.2 ⟨hfresh, hw.orderly.distinct⟩
  have hsub : target :: w.outcomes.map Prod.fst ⊆ w.targets := by
    refine List.cons_subset.2 ⟨htarget, fun unit hunit => ?_⟩
    obtain ⟨outcome, houtcome, rfl⟩ := List.mem_map.1 hunit
    exact hw.orderly.mem_targets outcome houtcome
  have hle := (hnodup.subperm hsub).length_le
  rw [List.length_cons, List.length_map, hw.targets] at hle
  exact hle

/-- As long as a writer waits, there is an outcome that it has not heard of, or a task that runs. -/
theorem Prospers.exists_unheard (hw : Prospers c i w) (hended : ∀ target, w.isRunning target = false)
    (hnodup : (c.replicas (keyOf i)).Nodup) (hwaiting : w.isWaiting = true) :
    ∃ outcome ∈ w.outcomes, some outcome ∉ w.received := by
  by_contra hnone
  have hall : w.outcomes.map some ⊆ w.received := by
    intro answer hanswer
    obtain ⟨outcome, houtcome, rfl⟩ := List.mem_map.1 hanswer
    exact by_contra fun hnew => hnone ⟨outcome, houtcome, hnew⟩
  have hdistinct : (w.outcomes.map some).Nodup :=
    (List.Nodup.of_map _ hw.orderly.distinct).map (Option.some_injective _)
  have hle := (hdistinct.subperm hall).length_le
  have hlength := (hw.outcomes_perm hended hnodup).length_eq
  obtain ⟨hlt, -⟩ := Bool.and_eq_true_iff.1 hwaiting
  have hlt := of_decide_eq_true hlt
  rw [List.length_map] at hle hlength
  rw [hw.targets] at hlt
  omega

namespace Steady

/-- A load that is not complete has a move that leaves fewer to make. -/
theorem exists_move (h : Steady c keys writers l) (hs : c.fleet.ring.Sound)
    (hne : ∀ key, c.replicas key ≠ []) (hnot : ¬l.IsComplete) :
    ∃ move, (l.step move).remaining c keys writers < l.remaining c keys writers := by
  by_cases hquiet : l.IsQuiet
  · -- nobody waits for a task, so that a writer can go on
    obtain ⟨writer, hwriter⟩ := not_forall.1 fun hall => hnot ⟨hall, hquiet⟩
    obtain ⟨i, rest, htodo⟩ := List.exists_cons_of_ne_nil hwriter
    obtain ⟨hi, hrange⟩ := h.todo writer i (htodo ▸ List.mem_cons_self)
    cases hsome : l.writings i with
    | none =>
      refine ⟨.start writer, ?_⟩
      rw [step_start htodo hsome (h.replicas _ ▸ hne (keyOf i))]
      refine remaining_of_update hi rfl rfl ?_
      rw [hsome]
      simp only [effort, List.length_nil]
      omega
    | some w =>
      obtain ⟨-, hw⟩ := h.writing i w hsome
      cases hwaiting : w.isWaiting with
      | false =>
        refine ⟨.finish writer, ?_⟩
        have hsum := sum_update (fun _ todo => todo.length) l.todo (Finset.mem_range.2 hrange) rest
        rw [htodo, List.length_cons] at hsum
        rw [step_finish htodo hsome hwaiting, Load.settle, remaining, remaining]
        dsimp only
        omega
      | true =>
        have hnodup := Fleet.nodup_replicas hs (keyOf i) c.replicationFactor
        obtain ⟨outcome, hmem, hnew⟩ := hw.exists_unheard (hquiet i w hsome) hnodup hwaiting
        have hheard := (Writing.hear_of_new hmem hnew hw.orderly.distinct).trans
          (Writing.receive_of_waiting hwaiting _)
        obtain ⟨hlt, -⟩ := Bool.and_eq_true_iff.1 hwaiting
        have hlt := of_decide_eq_true hlt
        rw [hw.targets] at hlt
        refine ⟨.hear i outcome.1, ?_⟩
        rw [Load.step, act_of_writing hsome]
        refine remaining_of_update hi rfl rfl ?_
        rw [Writing.step, hheard, hsome]
        simp only [effort, List.length_append, List.length_singleton]
        omega
  · -- a task can run
    obtain ⟨i, w, target, hsome, hrunning⟩ : ∃ i w target, l.writings i = some w ∧
        w.isRunning target = true := by
      by_contra hnone
      refine hquiet fun i w hsome target => ?_
      by_contra hrunning
      exact hnone ⟨i, w, target, hsome, by simpa using hrunning⟩
    obtain ⟨hi, hw⟩ := h.writing i w hsome
    have hlt := hw.length_outcomes_lt hrunning
    refine ⟨.run i target, ?_⟩
    rw [Load.step, act_of_writing hsome, Writing.step_run_of_running hrunning]
    refine remaining_of_update hi rfl rfl ?_
    rw [hsome]
    simp only [effort, Writing.finish, List.length_append, List.length_singleton]
    omega

/-- Every load can be completed. -/
theorem exists_completion (h : Steady c keys writers l) (hs : c.fleet.ring.Sound)
    (hne : ∀ key, c.replicas key ≠ []) : ∃ moves, (l.play moves).IsComplete := by
  induction hn : l.remaining c keys writers using Nat.strong_induction_on generalizing l with
  | _ n ih =>
    by_cases hdone : l.IsComplete
    · exact ⟨[], hdone⟩
    · obtain ⟨move, hless⟩ := h.exists_move hs hne hdone
      obtain ⟨moves, hcomplete⟩ := ih _ (hn ▸ hless) (h.step hs hne move) rfl
      exact ⟨move :: moves, hcomplete⟩
end Steady

end Load

end QuorumRing
