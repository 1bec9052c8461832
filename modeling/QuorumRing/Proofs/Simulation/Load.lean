import QuorumRing.Proofs.Cluster.Bootstrap
import QuorumRing.Proofs.Cluster.Decision
import QuorumRing.Proofs.Metrics.Totals
import QuorumRing.Proofs.Simulation.Shares

/-!
# Several writers at once

The writers of a load go about their shares at the same time. A writer hands out the tasks of a
write, hears of their outcomes until the write is decided, and turns to its next key, while tasks
that were not waited for may still be to run. The writers share the cluster, and nothing is promised
about whose turn it is: a course of the load is any sequence of the moves that are possible
(`Load.play`). No wait ends without an outcome here.

What holds throughout every course (`Load.Steady`) leaves nothing to chance in the end: the keys that
nobody has left to store have been stored, on all of their replicas and nowhere else.
-/

namespace QuorumRing

namespace Simulation

/-- The key with a number. -/
def keyOf (i : Nat) : String := "key" ++ toString i

/-- The value of the key with a number. -/
def valueOf (i : Nat) : String := "value" ++ toString i

theorem keyOf_inj {i j : Nat} : keyOf i = keyOf j ↔ i = j := append_decimal_inj

/-- The entries of a complete load. -/
def entries : Nat → Contents
  | 0 => ∅
  | keys + 1 => (entries keys).insert (keyOf keys) (valueOf keys)

theorem getElem?_entries_keyOf (keys i : Nat) :
    (entries keys)[keyOf i]? = if i < keys then some (valueOf i) else none := by
  induction keys with
  | zero => simp [entries]
  | succ keys ih =>
    rw [entries, Std.ExtTreeMap.getElem?_insert, ih]
    by_cases hi : i = keys
    · simp [hi]
    · have hkey : keyOf keys ≠ keyOf i := fun h => hi (keyOf_inj.1 h).symm
      have hlt : i < keys + 1 ↔ i < keys := by omega
      simp [hkey, hlt]

theorem getElem?_entries_of_ne {keys : Nat} {key : String} (h : ∀ i, key ≠ keyOf i) :
    (entries keys)[key]? = none := by
  induction keys with
  | zero => simp [entries]
  | succ keys ih =>
    rw [entries, Std.ExtTreeMap.getElem?_insert, ih]
    simp [(h keys).symm]

theorem size_entries (keys : Nat) : (entries keys).size = keys := by
  induction keys with
  | zero => rfl
  | succ keys ih =>
    have habsent : keyOf keys ∉ entries keys := by
      rw [Std.ExtTreeMap.mem_iff_isSome_getElem?, getElem?_entries_keyOf]
      simp
    rw [entries, Std.ExtTreeMap.size_insert,
      if_neg (mt Std.ExtTreeMap.contains_iff_mem.1 habsent), ih]

end Simulation

/-- An active unit acknowledges a write, and the operation is counted. -/
theorem Cluster.write_of_active {c : Cluster} {target : UnitRef}
    (h : c.fleet.pool.isActive target = true) (key value : String) :
    c.write target key value = (.acknowledged,
      { c with
        fleet := (c.fleet.attempt target (·.put key value)).2
        metrics := c.metrics.recordUnitOperation target.id }) := by
  have hfst := Fleet.attempt_put_fst h key value
  unfold write attempt
  dsimp only
  rw [hfst]
  rfl

open Simulation

/-! ## Courses of a load -/

/-- A load under way. -/
structure Load where
  cluster : Cluster
  /-- The numbers of the keys that each writer has still to store. The write of the first one may be
  under way. -/
  todo : Nat → List Nat
  /-- The writes that were begun, by the numbers of their keys. -/
  writings : Nat → Option Writing := fun _ => none
  /-- The number of writes that failed. -/
  failed : Nat := 0

/-- What can happen to a load under way. -/
inductive Load.Move where
  /-- A writer begins to store its next key. -/
  | start (writer : Nat)
  /-- A task of the write of a key runs. -/
  | run (i : Nat) (target : UnitRef)
  /-- The writer of a key hears of an outcome. -/
  | hear (i : Nat) (target : UnitRef)
  /-- A writer is done with its key. -/
  | finish (writer : Nat)

namespace Load

/-- The load of so many keys on a cluster, before the writers begin. -/
def begin (c : Cluster) (keys writers : Nat) : Load where
  cluster := c
  todo writer := if writer < writers then share keys writers writer else []

/-- The outcomes of the write of a key. -/
def outcomes (l : Load) (i : Nat) : List (UnitRef × Wait) :=
  (l.writings i).elim [] Writing.outcomes

/-- Counts the write of a key by its verdict, and strikes the key off. -/
def settle (l : Load) (writer : Nat) (rest : List Nat) (success : Bool) : Load :=
  { l with
    cluster := l.cluster.record fun m => if success then m.recordWrite {} else m.recordFailure
    todo := Function.update l.todo writer rest
    failed := if success then l.failed else l.failed + 1 }

/-- A move of the write of a key. -/
def act (l : Load) (i : Nat) (move : Writing.Move) : Load :=
  match l.writings i with
  | some w =>
    { l with
      cluster := (Writing.step (w, l.cluster) move).2
      writings := Function.update l.writings i (some (Writing.step (w, l.cluster) move).1) }
  | none => l

/-- One move of a load. A move that is not possible changes nothing. -/
def step (l : Load) : Move → Load
  | .start writer =>
    match l.todo writer with
    | i :: rest =>
      let targets := l.cluster.replicas (keyOf i)
      if (l.writings i).isSome then l
      else if targets.isEmpty then l.settle writer rest false
      else
        { l with
          writings := Function.update l.writings i
            (some { key := keyOf i, value := valueOf i, targets }) }
    | [] => l
  | .run i target => l.act i (.run target)
  | .hear i target => l.act i (.hear target)
  | .finish writer =>
    match l.todo writer with
    | i :: rest =>
      match l.writings i with
      | some w => if w.isWaiting then l else l.settle writer rest w.verdict.isOk
      | none => l
    | [] => l

/-- A course of moves. -/
def play (l : Load) (moves : List Move) : Load := moves.foldl step l

/-- Whether all tasks have ended. -/
def IsQuiet (l : Load) : Prop :=
  ∀ i w, l.writings i = some w → ∀ target, w.isRunning target = false

/-- Whether no writer has anything left to do, and all tasks have ended. -/
def IsComplete (l : Load) : Prop := (∀ writer, l.todo writer = []) ∧ l.IsQuiet

/-- What is reported of a load. -/
def report (l : Load) : SimulationReport where
  failedWrites := l.failed
  primaryOwnership :=
    (l.cluster.fleet.ring.keyDistribution l.cluster.fleet.pool.isActive 10000).toList
  status := l.cluster.status
  metrics := l.cluster.metrics

theorem play_append (l : Load) (moves later : List Move) :
    l.play (moves ++ later) = (l.play moves).play later :=
  List.foldl_append

variable {c : Cluster} {l : Load} {keys writers writer i : Nat} {rest : List Nat} {w : Writing}
  {target unit : UnitRef}

/-! ## What the moves do -/

theorem outcomes_of_writing (h : l.writings i = some w) : l.outcomes i = w.outcomes := by
  rw [outcomes, h]
  rfl

theorem outcomes_of_no_writing (h : l.writings i = none) : l.outcomes i = [] := by
  rw [outcomes, h]
  rfl

theorem outcomes_of_update {l' : Load} (h : l'.writings = Function.update l.writings i (some w)) :
    l'.outcomes = Function.update l.outcomes i w.outcomes := by
  funext j
  rw [outcomes, h, Function.update_apply, Function.update_apply]
  split
  · rfl
  · rfl

theorem act_of_writing (h : l.writings i = some w) (move : Writing.Move) : l.act i move =
    { l with
      cluster := (Writing.step (w, l.cluster) move).2
      writings := Function.update l.writings i (some (Writing.step (w, l.cluster) move).1) } := by
  rw [act, h]

theorem act_of_no_writing (h : l.writings i = none) (move : Writing.Move) : l.act i move = l := by
  rw [act, h]

theorem step_start (htodo : l.todo writer = i :: rest) (hnone : l.writings i = none)
    (hne : l.cluster.replicas (keyOf i) ≠ []) : l.step (.start writer) =
    { l with
      writings := Function.update l.writings i
        (some { key := keyOf i, value := valueOf i, targets := l.cluster.replicas (keyOf i) }) } := by
  simp only [step, htodo]
  rw [if_neg (by simp [hnone]), if_neg (by simpa using hne)]

theorem step_finish (htodo : l.todo writer = i :: rest) (hsome : l.writings i = some w)
    (hdone : w.isWaiting = false) :
    l.step (.finish writer) = l.settle writer rest w.verdict.isOk := by
  simp only [step, htodo, hsome]
  rw [if_neg (by simp [hdone])]

/-! ## What holds throughout -/

/-- A write of a load. It is the one of its key, and nothing has gone wrong with it. -/
structure Prospers (c : Cluster) (i : Nat) (w : Writing) : Prop where
  key : w.key = keyOf i
  value : w.value = valueOf i
  targets : w.targets = c.replicas (keyOf i)
  orderly : w.Orderly
  acknowledged : ∀ outcome ∈ w.outcomes, outcome.2 = .acknowledged
  timely : none ∉ w.received

namespace Prospers

theorem start (c : Cluster) (i : Nat) : Prospers c i
    { key := keyOf i, value := valueOf i, targets := c.replicas (keyOf i) } where
  key := rfl
  value := rfl
  targets := rfl
  orderly := Writing.orderly_start
  acknowledged _ h := absurd h List.not_mem_nil
  timely := List.not_mem_nil

theorem finish (h : Prospers c i w) (hrunning : w.isRunning target = true) :
    Prospers c i (w.finish target .acknowledged) where
  key := h.key
  value := h.value
  targets := h.targets
  orderly := h.orderly.finish hrunning .acknowledged
  acknowledged outcome hmem := by
    rcases List.mem_append.1 hmem with hmem | hmem
    · exact h.acknowledged outcome hmem
    · rw [List.mem_singleton.1 hmem]
  timely := h.timely

theorem hear (h : Prospers c i w) (target : UnitRef) : Prospers c i (w.hear target) where
  key := (Writing.same_hear w target).key.trans h.key
  value := (Writing.same_hear w target).value.trans h.value
  targets := (Writing.same_hear w target).targets.trans h.targets
  orderly := h.orderly.hear target
  acknowledged outcome hmem := by
    rw [Writing.hear_outcomes] at hmem
    exact h.acknowledged outcome hmem
  timely := by
    rcases Writing.hear_cases w target with hsame | ⟨wait, -, -, hheard⟩
    · rw [hsame]
      exact h.timely
    · rw [hheard, Writing.receive]
      split
      · simp [h.timely]
      · exact h.timely

theorem waits (h : Prospers c i w) : ∀ wait ∈ w.waits, wait = .acknowledged := by
  intro wait hmem
  obtain ⟨answer, hanswer, rfl⟩ := List.mem_map.1 hmem
  cases answer with
  | none => exact absurd hanswer h.timely
  | some outcome => exact h.acknowledged outcome (h.orderly.sent outcome hanswer)

/-- A write that is decided is successful. -/
theorem verdict (h : Prospers c i w) (hne : c.replicas (keyOf i) ≠ [])
    (hdone : w.isWaiting = false) : w.verdict.isOk = true := by
  rcases Writing.verdict_of_not_waiting h.orderly hdone with ⟨-, hok⟩ | ⟨hmissed, hlength, -⟩
  · rw [hok]
    rfl
  · have hall : w.waits.count .acknowledged = w.waits.length :=
      List.count_eq_length.2 fun wait hmem => (h.waits wait hmem).symm
    have hpos : 0 < w.targets.length := List.length_pos_iff.2 (h.targets ▸ hne)
    rw [← Writing.count_waits, hall, hlength] at hmissed
    unfold Quorum.needed at hmissed
    omega

/-- When all tasks have ended, every replica has acknowledged, and once. -/
theorem outcomes_perm (h : Prospers c i w) (hended : ∀ target, w.isRunning target = false)
    (hnodup : (c.replicas (keyOf i)).Nodup) :
    (w.outcomes.map Prod.fst).Perm (c.replicas (keyOf i)) := by
  refine (List.perm_ext_iff_of_nodup h.orderly.distinct hnodup).2 fun unit => ?_
  rw [← h.targets]
  constructor
  · intro hmem
    obtain ⟨outcome, houtcome, rfl⟩ := List.mem_map.1 hmem
    exact h.orderly.mem_targets outcome houtcome
  · intro hmem
    by_contra hnot
    have hrunning := Writing.isRunning_iff.2 ⟨hmem, hnot⟩
    rw [hended unit] at hrunning
    cases hrunning

theorem acknowledged_iff (h : Prospers c i w) :
    (unit, .acknowledged) ∈ w.outcomes ↔ unit ∈ w.outcomes.map Prod.fst := by
  constructor
  · exact List.mem_map_of_mem
  · intro hmem
    obtain ⟨outcome, houtcome, rfl⟩ := List.mem_map.1 hmem
    rw [← h.acknowledged outcome houtcome]
    exact houtcome

end Prospers

/-- What holds throughout a load: of every key that is not left to store there is a write, the
copies are those that the tasks of the writes have stored, and the counters count them. -/
structure Steady (c : Cluster) (keys writers : Nat) (l : Load) : Prop where
  cluster : ∃ fleet metrics, l.cluster = { c with fleet, metrics }
  shape : Fleet.SameShape c.fleet l.cluster.fleet
  writing : ∀ i w, l.writings i = some w → i < keys ∧ Prospers c i w
  todo : ∀ writer, ∀ i ∈ l.todo writer, i < keys ∧ writer < writers
  begun : ∀ i < keys, i ∉ l.todo (i % writers) → (l.writings i).isSome
  copies : ∀ i unit, l.cluster.fleet.copy unit (keyOf i) =
    if (unit, .acknowledged) ∈ l.outcomes i then some (valueOf i) else none
  others : ∀ key, (∀ i, key ≠ keyOf i) → ∀ unit, l.cluster.fleet.copy unit key = none
  failed : l.failed = 0
  writes : l.cluster.metrics.writes + ∑ writer ∈ Finset.range writers, (l.todo writer).length = keys
  operations : Tally.total l.cluster.metrics.nodeOperations =
    ∑ i ∈ Finset.range keys, (l.outcomes i).length

/-- A summand is changed. -/
theorem sum_update {α : Type} (g : Nat → α → Nat) (f : Nat → α) {s : Finset Nat} {a : Nat}
    (ha : a ∈ s) (b : α) :
    ∑ j ∈ s, g j (Function.update f a b j) + g a (f a) = ∑ j ∈ s, g j (f j) + g a b := by
  have hrest : ∑ j ∈ s.erase a, g j (Function.update f a b j) = ∑ j ∈ s.erase a, g j (f j) := by
    refine Finset.sum_congr rfl fun j hj => ?_
    rw [Function.update_of_ne (Finset.ne_of_mem_erase hj)]
  rw [← Finset.sum_erase_add s _ ha, ← Finset.sum_erase_add s (fun j => g j (f j)) ha, hrest,
    Function.update_self]
  omega

namespace Steady

theorem begin (hbare : ∀ unit key, c.fleet.copy unit key = none) (hwrites : c.metrics.writes = 0)
    (hoperations : c.metrics.nodeOperations = ∅) (keys : Nat) (hwriters : 0 < writers) :
    Steady c keys writers (Load.begin c keys writers) := by
  have hshare : ∀ writer < writers, (Load.begin c keys writers).todo writer =
      share keys writers writer := fun writer h => if_pos h
  constructor
  case cluster => exact ⟨_, _, rfl⟩
  case shape => exact Fleet.SameShape.refl c.fleet
  case writing =>
    intro i w h
    cases h
  case todo =>
    intro writer i hmem
    by_cases hwriter : writer < writers
    · rw [hshare writer hwriter] at hmem
      exact ⟨((mem_share hwriter).1 hmem).1, hwriter⟩
    · have hnone : (Load.begin c keys writers).todo writer = [] := if_neg hwriter
      rw [hnone] at hmem
      exact absurd hmem List.not_mem_nil
  case begun =>
    intro i hi hnot
    have hwriter := Nat.mod_lt i hwriters
    rw [hshare _ hwriter] at hnot
    exact absurd ((mem_share hwriter).2 ⟨hi, rfl⟩) hnot
  case copies => exact fun i unit => hbare unit (keyOf i)
  case others => exact fun key _ unit => hbare unit key
  case failed => rfl
  case writes =>
    show c.metrics.writes + _ = keys
    rw [hwrites, Nat.zero_add, Finset.sum_congr rfl fun writer hwriter => congrArg List.length
      (hshare writer (Finset.mem_range.1 hwriter))]
    exact sum_length_share hwriters keys
  case operations =>
    show Tally.total c.metrics.nodeOperations = _
    rw [hoperations]
    exact (Finset.sum_eq_zero fun _ _ => rfl).symm

variable (h : Steady c keys writers l)
include h

theorem replicas (key : String) : l.cluster.replicas key = c.replicas key := by
  obtain ⟨fleet, metrics, heq⟩ := h.cluster
  have hreplicas := h.shape.replicas key c.replicationFactor
  rw [heq] at hreplicas ⊢
  exact hreplicas

theorem isActive_of_mem_replicas (hs : c.fleet.ring.Sound) {key : String}
    (hunit : unit ∈ l.cluster.replicas key) : l.cluster.fleet.pool.isActive unit = true := by
  rw [h.replicas] at hunit
  rw [h.shape.active]
  exact Fleet.isActive_of_mem_replicas hs hunit

theorem writing_update (hi : i < keys) (hw : Prospers c i w) (j : Nat) (w' : Writing)
    (hj : Function.update l.writings i (some w) j = some w') : j < keys ∧ Prospers c j w' := by
  rw [Function.update_apply] at hj
  split at hj
  next heq =>
    obtain rfl := heq
    obtain rfl := Option.some.inj hj
    exact ⟨hi, hw⟩
  · exact h.writing j w' hj

theorem begun_update (w : Writing) (j : Nat) (hj : j < keys) (hnot : j ∉ l.todo (j % writers)) :
    (Function.update l.writings i (some w) j).isSome := by
  rw [Function.update_apply]
  split
  · rfl
  · exact h.begun j hj hnot

/-- The write of a key begins, or its writer hears of an outcome. -/
theorem rewrite (hi : i < keys) (hw : Prospers c i w) (hsame : w.outcomes = l.outcomes i) :
    Steady c keys writers { l with writings := Function.update l.writings i (some w) } := by
  have houtcomes :
      outcomes { l with writings := Function.update l.writings i (some w) } = l.outcomes := by
    rw [outcomes_of_update rfl, hsame, Function.update_eq_self]
  constructor
  case cluster => exact h.cluster
  case shape => exact h.shape
  case writing => exact h.writing_update hi hw
  case todo => exact h.todo
  case begun => exact h.begun_update w
  case copies =>
    rw [houtcomes]
    exact h.copies
  case others => exact h.others
  case failed => exact h.failed
  case writes => exact h.writes
  case operations =>
    rw [houtcomes]
    exact h.operations

/-- A task runs, and its unit acknowledges. -/
theorem acknowledge (hs : c.fleet.ring.Sound) (hsome : l.writings i = some w)
    (hrunning : w.isRunning target = true) : Steady c keys writers (l.act i (.run target)) := by
  obtain ⟨hi, hw⟩ := h.writing i w hsome
  have htarget := (Writing.isRunning_iff.1 hrunning).1
  rw [hw.targets, ← h.replicas] at htarget
  have hactive := h.isActive_of_mem_replicas hs htarget
  have hact : l.act i (.run target) =
      { l with
        cluster :=
          { l.cluster with
            fleet := (l.cluster.fleet.attempt target (·.put (keyOf i) (valueOf i))).2
            metrics := l.cluster.metrics.recordUnitOperation target.id }
        writings := Function.update l.writings i (some (w.finish target .acknowledged)) } := by
    rw [act_of_writing hsome, Writing.step_run_of_running hrunning, hw.key, hw.value,
      Cluster.write_of_active hactive]
  have houtcomes : (l.act i (.run target)).outcomes =
      Function.update l.outcomes i (l.outcomes i ++ [(target, .acknowledged)]) := by
    rw [outcomes_of_writing hsome]
    exact outcomes_of_update (congrArg Load.writings hact)
  rw [hact] at houtcomes ⊢
  have hcopy := Fleet.copy_attempt_put l.cluster.fleet target
  constructor
  case cluster =>
    obtain ⟨fleet, metrics, heq⟩ := h.cluster
    rw [heq]
    exact ⟨_, _, rfl⟩
  case shape => exact h.shape.trans (Fleet.sameShape_attempt_put _ _ _ _)
  case writing => exact h.writing_update hi (hw.finish hrunning)
  case todo => exact h.todo
  case begun => exact h.begun_update _
  case copies =>
    intro j unit
    refine (hcopy unit _ _ _).trans ?_
    rw [h.copies, houtcomes, Function.update_apply]
    by_cases hj : j = i
    · subst hj
      by_cases hunit : unit = target
      · simp [hunit, hactive]
      · simp [hunit]
    · simp [hj, keyOf_inj]
  case others =>
    intro key hother unit
    refine (hcopy unit _ _ _).trans ?_
    rw [h.others key hother, if_neg fun heq => hother i heq.2.1]
  case failed => exact h.failed
  case writes => exact h.writes
  case operations =>
    have hsum := sum_update (fun _ outcomes => outcomes.length) l.outcomes (Finset.mem_range.2 hi)
      (l.outcomes i ++ [(target, .acknowledged)])
    rw [houtcomes]
    refine (Tally.total_count _ _).trans ?_
    rw [h.operations]
    rw [List.length_append, List.length_singleton] at hsum
    omega

theorem run (hs : c.fleet.ring.Sound) (i : Nat) (target : UnitRef) :
    Steady c keys writers (l.act i (.run target)) := by
  cases hsome : l.writings i with
  | none => rwa [act_of_no_writing hsome]
  | some w =>
    cases hrunning : w.isRunning target with
    | true => exact h.acknowledge hs hsome hrunning
    | false =>
      have hsame : Function.update l.writings i (some w) = l.writings :=
        Function.update_eq_self_iff.2 hsome.symm
      rw [act_of_writing hsome, Writing.step_run_of_not_running hrunning, hsame]
      exact h

theorem hear (i : Nat) (target : UnitRef) : Steady c keys writers (l.act i (.hear target)) := by
  cases hsome : l.writings i with
  | none => rwa [act_of_no_writing hsome]
  | some w =>
    obtain ⟨hi, hw⟩ := h.writing i w hsome
    rw [act_of_writing hsome]
    refine h.rewrite hi (hw.hear target) ?_
    exact (Writing.hear_outcomes w target).trans (outcomes_of_writing hsome).symm

theorem start (hne : ∀ key, c.replicas key ≠ []) (writer : Nat) :
    Steady c keys writers (l.step (.start writer)) := by
  cases htodo : l.todo writer with
  | nil =>
    simp only [Load.step, htodo]
    exact h
  | cons i rest =>
    cases hsome : l.writings i with
    | some w =>
      simp only [Load.step, htodo, hsome, Option.isSome_some, if_true]
      exact h
    | none =>
      have hmem : i ∈ l.todo writer := htodo ▸ List.mem_cons_self
      rw [step_start htodo hsome (h.replicas _ ▸ hne (keyOf i)), h.replicas]
      exact h.rewrite (h.todo writer i hmem).1 (Prospers.start c i)
        (outcomes_of_no_writing hsome).symm

/-- A writer strikes a key off that it has stored. -/
theorem settle (htodo : l.todo writer = i :: rest) (hsome : (l.writings i).isSome) :
    Steady c keys writers (l.settle writer rest true) := by
  have hmem : i ∈ l.todo writer := htodo ▸ List.mem_cons_self
  constructor
  case cluster =>
    obtain ⟨fleet, metrics, heq⟩ := h.cluster
    rw [Load.settle, heq]
    exact ⟨_, _, rfl⟩
  case shape => exact h.shape
  case writing => exact h.writing
  case todo =>
    intro other j hj
    change j ∈ Function.update l.todo writer rest other at hj
    rw [Function.update_apply] at hj
    split at hj
    next heq => exact h.todo other j (heq ▸ htodo ▸ List.mem_cons_of_mem _ hj)
    · exact h.todo other j hj
  case begun =>
    intro j hj hnot
    by_cases heq : j = i
    · exact heq ▸ hsome
    · refine h.begun j hj fun hleft => hnot ?_
      show j ∈ Function.update l.todo writer rest (j % writers)
      rw [Function.update_apply]
      split
      next hsame =>
        rw [hsame, htodo] at hleft
        exact (List.mem_cons.1 hleft).resolve_left heq
      · exact hleft
  case copies => exact h.copies
  case others => exact h.others
  case failed => exact h.failed
  case writes =>
    have hsum := sum_update (fun _ todo => todo.length) l.todo
      (Finset.mem_range.2 (h.todo writer i hmem).2) rest
    have hwrites := h.writes
    rw [htodo, List.length_cons] at hsum
    show l.cluster.metrics.writes + 1 + _ = keys
    rw [Load.settle]
    dsimp only
    omega
  case operations => exact h.operations

theorem finish (hne : ∀ key, c.replicas key ≠ []) (writer : Nat) :
    Steady c keys writers (l.step (.finish writer)) := by
  cases htodo : l.todo writer with
  | nil =>
    simp only [Load.step, htodo]
    exact h
  | cons i rest =>
    cases hsome : l.writings i with
    | none =>
      simp only [Load.step, htodo, hsome]
      exact h
    | some w =>
      cases hwaiting : w.isWaiting with
      | true =>
        simp only [Load.step, htodo, hsome, hwaiting, if_true]
        exact h
      | false =>
        obtain ⟨-, hw⟩ := h.writing i w hsome
        rw [step_finish htodo hsome hwaiting, hw.verdict (hne _) hwaiting]
        exact h.settle htodo (hsome ▸ rfl)

theorem step (hs : c.fleet.ring.Sound) (hne : ∀ key, c.replicas key ≠ []) (move : Move) :
    Steady c keys writers (l.step move) := by
  cases move with
  | start writer => exact h.start hne writer
  | run i target => exact h.run hs i target
  | hear i target => exact h.hear i target
  | finish writer => exact h.finish hne writer

omit h in
theorem play (h : Steady c keys writers l) (hs : c.fleet.ring.Sound)
    (hne : ∀ key, c.replicas key ≠ []) (moves : List Move) :
    Steady c keys writers (l.play moves) := by
  induction moves generalizing l with
  | nil => exact h
  | cons move moves ih => exact ih (h.step hs hne move)

end Steady

end Load

end QuorumRing
