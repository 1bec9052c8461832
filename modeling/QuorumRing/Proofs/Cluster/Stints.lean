import Mathlib.Logic.Relation
import QuorumRing.Cluster.Basic
import QuorumRing.Proofs.Fleet.Movement

/-!
# Tasks that work in stints

A task changes the fleet by one stint (`Task.effect`) and leaves the rest of its work to be queued
again (`Task.rest`); the metrics and the registry are of no consequence for the data and stay unnamed.
Whatever is done with a queue, be it that one task goes on, that there is a round or that the queue is
drained, consists of stints (`Stints`), so that what one stint keeps is kept by all of these. In what
order a redistribution comes to its entries is left open: the entries of a unit are in no particular
one, so that they may be put in any other before they are served (`Task.reorder`).

A queue that is drained is empty in the end: after a round every task has begun, and then each of its
stints leaves fewer keys to look at (`Cluster.queue_rounds`). If one task is queued and nothing else,
its stints follow each other and come to its whole work (`Cluster.drain_of_single`).
-/

namespace QuorumRing

namespace Task

/-- A migration begins by listing the other units and their keys. -/
def begun (fleet : Fleet) : Task → Task
  | .join unit registration =>
    .pull unit (fleet.others unit) (fleet.keysOn (fleet.others unit)).toList registration
  | task => task

/-- What a task does to the fleet in a stint. -/
def effect (r : Nat) (fleet : Fleet) : Task → Fleet
  | .write target key value => (fleet.attempt target (·.put key value)).2
  | .join unit _ => (fleet.pullAll r unit (fleet.others unit) { id := unit.id }
      ((fleet.keysOn (fleet.others unit)).toList.take stint)).2
  | .pull unit others keys _ => (fleet.pullAll r unit others { id := unit.id } (keys.take stint)).2
  | .leave entries _ => (fleet.redistribute r (entries.take stint)).2

/-- What is left of a task after a stint. -/
def rest (fleet : Fleet) : Task → Option Task
  | .write .. => none
  | .join unit registration => (remainder? (fleet.keysOn (fleet.others unit)).toList).map
      (.pull unit (fleet.others unit) · registration)
  | .pull unit others keys registration => (remainder? keys).map (.pull unit others · registration)
  | .leave entries registration => (remainder? entries).map (.leave · registration)

/-- What a task does to the fleet if nothing comes in between. -/
def whole (r : Nat) (fleet : Fleet) : Task → Fleet
  | .write target key value => (fleet.attempt target (·.put key value)).2
  | .join unit _ => (fleet.migrate unit r).2
  | .pull unit others keys _ => (fleet.pullAll r unit others { id := unit.id } keys).2
  | .leave entries _ => (fleet.redistribute r entries).2

/-- The task with its entries in another order, if it has these. -/
def reorder (entries : List (String × String)) : Task → Task
  | .leave old registration => .leave (if entries.Perm old then entries else old) registration
  | task => task

variable {r : Nat} {fleet : Fleet} {task left : Task}

theorem sameShape_effect (r : Nat) (fleet : Fleet) (task : Task) :
    Fleet.SameShape fleet (task.effect r fleet) := by
  cases task with
  | write target key value => exact Fleet.sameShape_attempt_put fleet target key value
  | join unit _ => exact Fleet.sameShape_pullAll fleet r unit _ _ _
  | pull unit others keys _ => exact Fleet.sameShape_pullAll fleet r unit _ _ _
  | leave entries _ => exact Fleet.sameShape_redistribute fleet r _

/-! ## What is left -/

theorem remainder?_eq_none_iff {α : Type} {work : List α} :
    remainder? work = none ↔ work.length ≤ stint := by
  unfold remainder?
  split
  next h => exact iff_of_true rfl h
  next h => exact iff_of_false (by simp) h

theorem remainder?_eq_some_iff {α : Type} {work left : List α} :
    remainder? work = some left ↔ stint < work.length ∧ left = work.drop stint := by
  unfold remainder?
  split
  next h => exact iff_of_false (by simp) fun h' => absurd h'.1 (Nat.not_lt.2 h)
  next h =>
    rw [Option.some.injEq, eq_comm]
    exact ⟨fun heq => ⟨Nat.lt_of_not_le h, heq⟩, fun h' => h'.2⟩

/-- Whatever there is to work on is in the first stint or is left. -/
theorem mem_take_or_remainder {α : Type} {work : List α} {a : α} (h : a ∈ work) :
    a ∈ work.take stint ∨ ∃ left, remainder? work = some left ∧ a ∈ left := by
  rw [← List.take_append_drop stint work, List.mem_append] at h
  refine h.imp_right fun hleft => ⟨_, remainder?_eq_some_iff.2 ⟨?_, rfl⟩, hleft⟩
  by_contra hle
  rw [List.drop_of_length_le (Nat.le_of_not_lt hle)] at hleft
  exact List.not_mem_nil hleft

/-- What is left of a stint is the work of the same task that comes behind the first keys. -/
theorem rest_eq_some (h : task.rest fleet = some left) :
    (∃ unit others keys registration, task.begun fleet = .pull unit others keys registration ∧
      stint < keys.length ∧ left = .pull unit others (keys.drop stint) registration) ∨
    (∃ entries registration, task = .leave entries registration ∧
      stint < entries.length ∧ left = .leave (entries.drop stint) registration) := by
  cases task with
  | write => simp [rest] at h
  | join unit registration =>
    obtain ⟨keys, hkeys, rfl⟩ := Option.map_eq_some_iff.1 h
    obtain ⟨hlt, rfl⟩ := remainder?_eq_some_iff.1 hkeys
    exact Or.inl ⟨_, _, _, _, rfl, hlt, rfl⟩
  | pull unit others keys registration =>
    obtain ⟨left, hleft, rfl⟩ := Option.map_eq_some_iff.1 h
    obtain ⟨hlt, rfl⟩ := remainder?_eq_some_iff.1 hleft
    exact Or.inl ⟨_, _, _, _, rfl, hlt, rfl⟩
  | leave entries registration =>
    obtain ⟨left, hleft, rfl⟩ := Option.map_eq_some_iff.1 h
    obtain ⟨hlt, rfl⟩ := remainder?_eq_some_iff.1 hleft
    exact Or.inr ⟨_, _, rfl, hlt, rfl⟩

theorem registration?_rest (h : task.rest fleet = some left) :
    left.registration? = task.registration? := by
  rcases rest_eq_some h with ⟨unit, others, keys, registration, hbegun, -, rfl⟩ |
    ⟨entries, registration, rfl, -, rfl⟩
  · cases task with
    | join | pull =>
      cases hbegun
      rfl
    | write | leave => simp [begun] at hbegun
  · rfl

theorem size_rest_pos (h : task.rest fleet = some left) : 0 < left.size := by
  rcases rest_eq_some h with ⟨unit, others, keys, registration, -, hlt, rfl⟩ |
    ⟨entries, registration, -, hlt, rfl⟩
  · rw [size, List.length_drop]
    omega
  · rw [size, List.length_drop]
    omega

/-- A task that has begun has fewer keys to look at after a stint. -/
theorem size_rest_lt (hbegun : 0 < task.size) (h : task.rest fleet = some left) :
    left.size < task.size := by
  have hstint : 0 < stint := by decide
  rcases rest_eq_some h with ⟨unit, others, keys, registration, hkeys, hlt, rfl⟩ |
    ⟨entries, registration, rfl, hlt, rfl⟩
  · cases task with
    | pull =>
      cases hkeys
      rw [size, size, List.length_drop]
      omega
    | join => simp [size] at hbegun
    | write | leave => simp [begun] at hkeys
  · rw [size, size, List.length_drop]
    omega

/-- The whole work of a task is that of a stint and that of the rest. -/
theorem whole_eq (r : Nat) (fleet : Fleet) (task : Task) : task.whole r fleet =
    match task.rest fleet with
    | none => task.effect r fleet
    | some left => left.whole r (task.effect r fleet) := by
  have hpull : ∀ (unit : UnitRef) (others : List UnitRef) (keys : List String)
      (registration : Registration), (Task.pull unit others keys registration).whole r fleet =
        match (Task.pull unit others keys registration).rest fleet with
        | none => (Task.pull unit others keys registration).effect r fleet
        | some left => left.whole r ((Task.pull unit others keys registration).effect r fleet) := by
    intro unit others keys registration
    cases hrest : (Task.pull unit others keys registration).rest fleet with
    | none =>
      have hle := remainder?_eq_none_iff.1 (Option.map_eq_none_iff.1 hrest)
      dsimp only
      rw [effect, List.take_of_length_le hle, whole]
    | some left =>
      obtain ⟨keys', hkeys, rfl⟩ := Option.map_eq_some_iff.1 hrest
      obtain ⟨-, rfl⟩ := remainder?_eq_some_iff.1 hkeys
      dsimp only
      rw [effect, whole, whole, ← Fleet.pullAll_append, List.take_append_drop]
  cases task with
  | write => rfl
  | join unit registration =>
    refine Eq.trans ?_ (hpull unit (fleet.others unit) _ registration)
    exact Fleet.pullAll_report _ _ _ _ _ _ _
  | pull unit others keys registration => exact hpull unit others keys registration
  | leave entries registration =>
    cases hrest : (Task.leave entries registration).rest fleet with
    | none =>
      have hle := remainder?_eq_none_iff.1 (Option.map_eq_none_iff.1 hrest)
      dsimp only
      rw [effect, List.take_of_length_le hle, whole]
    | some left =>
      obtain ⟨entries', hentries, rfl⟩ := Option.map_eq_some_iff.1 hrest
      obtain ⟨-, rfl⟩ := remainder?_eq_some_iff.1 hentries
      dsimp only
      rw [effect, whole, whole, ← Fleet.redistribute_append, List.take_append_drop]

/-! ## Other orders -/

theorem reorder_eq (entries : List (String × String)) (task : Task) : task.reorder entries = task ∨
    ∃ old registration, task = .leave old registration ∧ entries.Perm old ∧
      task.reorder entries = .leave entries registration := by
  cases task with
  | leave old registration =>
    by_cases hperm : entries.Perm old
    · exact Or.inr ⟨old, registration, rfl, hperm, by rw [reorder, if_pos hperm]⟩
    · exact Or.inl (by rw [reorder, if_neg hperm])
  | write | join | pull => exact Or.inl rfl

theorem registration?_reorder (entries : List (String × String)) (task : Task) :
    (task.reorder entries).registration? = task.registration? := by
  cases task <;> rfl

/-- What is left of a task after some stints, whatever the fleet was in each of them and in whatever
order it came to its entries. -/
def Leaves : Task → Task → Prop :=
  Relation.ReflTransGen fun task left =>
    (∃ fleet, task.rest fleet = some left) ∨ ∃ entries, left = task.reorder entries

/-- A write ends within a stint, and no other task leaves one. -/
theorem Leaves.eq_write {target : UnitRef} {key value : String}
    (h : (Task.write target key value).Leaves left) : left = .write target key value := by
  induction h with
  | refl => rfl
  | tail _ hnext ih =>
    rw [ih] at hnext
    rcases hnext with ⟨fleet, hrest⟩ | ⟨entries, rfl⟩
    · simp [rest] at hrest
    · rfl

theorem Leaves.eq_of_write {target : UnitRef} {key value : String} (h : task.Leaves left)
    (hleft : left = .write target key value) : task = .write target key value := by
  induction h with
  | refl => exact hleft
  | tail _ hnext ih =>
    rcases hnext with ⟨fleet, hrest⟩ | ⟨entries, rfl⟩
    · rcases rest_eq_some hrest with ⟨_, _, _, _, -, -, rfl⟩ | ⟨_, _, -, -, rfl⟩
      · cases hleft
      · cases hleft
    · rcases reorder_eq entries _ with hsame | ⟨_, _, -, -, hreorder⟩
      · exact ih (hsame.symm.trans hleft)
      · cases hreorder.symm.trans hleft

end Task

/-! ## Stints in any order -/

/-- What becomes of a fleet and a queue when tasks do stints in any order. What is left of a task is
queued behind all others. Between the stints, entries may be put in another order. -/
inductive Stints (r : Nat) : Fleet → List Task → Fleet → List Task → Prop where
  /-- Nobody does anything. -/
  | refl (fleet : Fleet) (queue : List Task) : Stints r fleet queue fleet queue
  /-- A task does a stint, and then others follow. -/
  | cons {fleet fleet' : Fleet} {queue queue' : List Task} {index : Nat} {task : Task}
      (queued : queue[index]? = some task)
      (later : Stints r (task.effect r fleet) (queue.eraseIdx index ++ (task.rest fleet).toList)
        fleet' queue') : Stints r fleet queue fleet' queue'
  /-- A task has its entries in another order, and then others follow. -/
  | reorder {fleet fleet' : Fleet} {queue queue' : List Task} {index : Nat}
      {entries : List (String × String)}
      (later : Stints r fleet (queue.modify index (·.reorder entries)) fleet' queue') :
      Stints r fleet queue fleet' queue'

/-- A task is queued if it is the one at the index or any other. -/
theorem mem_queue_iff {queue : List Task} {index : Nat} {task other : Task}
    (h : queue[index]? = some task) : other ∈ queue ↔ other = task ∨ other ∈ queue.eraseIdx index := by
  obtain ⟨hlt, rfl⟩ := List.getElem?_eq_some_iff.1 h
  rw [← List.mem_cons]
  exact (List.getElem_cons_eraseIdx_perm hlt).mem_iff.symm

/-- Whatever is queued after a change at the index was queued before, changed or not. -/
theorem mem_queue_modify {queue : List Task} {index : Nat} {change : Task → Task} {task : Task}
    (h : task ∈ queue.modify index change) : task ∈ queue ∨ ∃ old ∈ queue, task = change old := by
  obtain ⟨i, hi⟩ := List.mem_iff_getElem?.1 h
  rw [List.getElem?_modify] at hi
  obtain ⟨old, hold, heq⟩ := Option.map_eq_some_iff.1 hi
  split at heq
  · exact Or.inr ⟨old, List.mem_of_getElem? hold, heq.symm⟩
  · exact Or.inl (heq ▸ List.mem_of_getElem? hold)

/-- And whatever was queued before is queued after it, changed or not. -/
theorem mem_modify_queue {queue : List Task} {task : Task} (index : Nat) (change : Task → Task)
    (h : task ∈ queue) : task ∈ queue.modify index change ∨ change task ∈ queue.modify index change := by
  obtain ⟨i, hi⟩ := List.mem_iff_getElem?.1 h
  have hafter : (queue.modify index change)[i]? =
      some (if index = i then change task else task) := by
    rw [List.getElem?_modify, hi]
    split
    · rfl
    · rfl
  split at hafter
  · exact Or.inr (List.mem_of_getElem? hafter)
  · exact Or.inl (List.mem_of_getElem? hafter)

namespace Stints

variable {r : Nat} {fleet fleet' fleet'' : Fleet} {queue queue' queue'' : List Task}

theorem trans (h : Stints r fleet queue fleet' queue') (h' : Stints r fleet' queue' fleet'' queue'') :
    Stints r fleet queue fleet'' queue'' := by
  induction h with
  | refl => exact h'
  | cons queued _ ih => exact .cons queued (ih h')
  | reorder _ ih => exact .reorder (ih h')

theorem single {index : Nat} {task : Task} (queued : queue[index]? = some task) :
    Stints r fleet queue (task.effect r fleet)
      (queue.eraseIdx index ++ (task.rest fleet).toList) :=
  .cons queued (.refl _ _)

/-- What is queued afterwards was queued before, up to some stints. -/
theorem leaves {left : Task} (h : Stints r fleet queue fleet' queue') (hmem : left ∈ queue') :
    ∃ task ∈ queue, task.Leaves left := by
  induction h with
  | refl => exact ⟨left, hmem, .refl⟩
  | cons queued _ ih =>
    obtain ⟨task, htask, hleft⟩ := ih hmem
    rcases List.mem_append.1 htask with hother | hrest
    · exact ⟨task, List.mem_of_mem_eraseIdx hother, hleft⟩
    · exact ⟨_, List.mem_of_getElem? queued, .head (Or.inl ⟨_, Option.mem_toList.1 hrest⟩) hleft⟩
  | reorder _ ih =>
    obtain ⟨task, htask, hleft⟩ := ih hmem
    rcases mem_queue_modify htask with hsame | ⟨old, hold, rfl⟩
    · exact ⟨task, hsame, hleft⟩
    · exact ⟨old, hold, .head (Or.inr ⟨_, rfl⟩) hleft⟩

/-- The first of the queued tasks does a stint. -/
theorem head {task : Task} (later : Stints r (task.effect r fleet)
    (queue ++ (task.rest fleet).toList) fleet' queue') :
    Stints r fleet (task :: queue) fleet' queue' :=
  @cons r fleet fleet' (task :: queue) queue' 0 task rfl later

theorem sameShape (h : Stints r fleet queue fleet' queue') : Fleet.SameShape fleet fleet' := by
  induction h with
  | refl => exact .refl _
  | cons _ _ ih => exact (Task.sameShape_effect r _ _).trans ih
  | reorder _ ih => exact ih

/-- Whatever is kept by a stint that follows others, and by another order of the entries, is kept by
stints. -/
theorem induction {P : Fleet → List Task → Prop} (h : Stints r fleet queue fleet' queue')
    (hstart : P fleet queue)
    (hstep : ∀ f q index task, Stints r fleet queue f q → q[index]? = some task → P f q →
      P (task.effect r f) (q.eraseIdx index ++ (task.rest f).toList))
    (horder : ∀ f q index entries, P f q → P f (q.modify index (·.reorder entries))) :
    P fleet' queue' := by
  have hgoesOn : ∀ {f f' : Fleet} {q q' : List Task}, Stints r f q f' q' →
      Stints r fleet queue f q → P f q → P f' q' := by
    intro f f' q q' hlater
    induction hlater with
    | refl => exact fun _ hp => hp
    | cons queued _ ih =>
      exact fun hbefore hp => ih (hbefore.trans (.single queued)) (hstep _ _ _ _ hbefore queued hp)
    | reorder _ ih =>
      exact fun hbefore hp => ih (hbefore.trans (.reorder (.refl _ _))) (horder _ _ _ _ hp)
  exact hgoesOn h (.refl _ _) hstart

end Stints

namespace Cluster

variable {c : Cluster} {key value : String} {task : Task} {tasks : List Task}

/-! ## One task -/

theorem write_snd (c : Cluster) (target : UnitRef) (key value : String) :
    ∃ m, (c.write target key value).2 =
      { c with fleet := (c.fleet.attempt target (·.put key value)).2, metrics := m } := by
  unfold write attempt
  dsimp only
  split
  next h =>
    obtain ⟨-, rfl⟩ := Prod.mk.inj h
    exact ⟨_, rfl⟩
  next h =>
    obtain ⟨-, rfl⟩ := Prod.mk.inj h
    exact ⟨_, rfl⟩

theorem write_fst (c : Cluster) (target : UnitRef) (key value : String) :
    (c.write target key value).1 =
      if c.fleet.pool.isActive target then .acknowledged else .refused := by
  rw [← Fleet.attempt_put_isOk c.fleet target key value]
  unfold write attempt
  dsimp only
  split
  next h =>
    obtain ⟨h, -⟩ := Prod.mk.inj h
    rw [h]
    rfl
  next h =>
    obtain ⟨h, -⟩ := Prod.mk.inj h
    rw [h]
    rfl

theorem perform_fst (c : Cluster) (task : Task) : (c.perform task).1 = task.rest c.fleet := by
  cases task <;> rfl

theorem perform_snd (c : Cluster) (task : Task) :
    ∃ m, (c.perform task).2 =
      { c with fleet := task.effect c.replicationFactor c.fleet, metrics := m } := by
  cases task with
  | write target key value => exact write_snd c target key value
  | join | pull | leave => exact ⟨_, rfl⟩

theorem conclude_eq (c : Cluster) (task : Task) :
    ∃ g, c.conclude task = { c with registry := g } := by
  unfold conclude
  split
  · exact ⟨_, rfl⟩
  · exact ⟨_, rfl⟩

theorem run_of_rest_eq_none (h : task.rest c.fleet = none) :
    c.run task = (c.perform task).2.conclude task := by
  unfold run
  split
  next heq => rw [heq]
  next heq =>
    have hfst := (congrArg Prod.fst heq).symm.trans ((perform_fst c task).trans h)
    simp at hfst

theorem run_of_rest_eq_some {left : Task} (h : task.rest c.fleet = some left) :
    c.run task = { (c.perform task).2 with queue := (c.perform task).2.queue ++ [left] } := by
  unfold run
  split
  next heq =>
    have hfst := (congrArg Prod.fst heq).symm.trans ((perform_fst c task).trans h)
    simp at hfst
  next heq =>
    have hfst := (congrArg Prod.fst heq).symm.trans ((perform_fst c task).trans h)
    obtain rfl := Option.some.inj hfst
    rw [heq]

/-- What becomes of the task afterwards is of no consequence for the fleet and the metrics. -/
theorem run_snd (c : Cluster) (task : Task) : (c.run task).fleet = (c.perform task).2.fleet ∧
    (c.run task).metrics = (c.perform task).2.metrics := by
  cases hrest : task.rest c.fleet with
  | none =>
    obtain ⟨g, hconclude⟩ := conclude_eq (c.perform task).2 task
    rw [run_of_rest_eq_none hrest, hconclude]
    exact ⟨rfl, rfl⟩
  | some left =>
    rw [run_of_rest_eq_some hrest]
    exact ⟨rfl, rfl⟩

theorem run_eq (c : Cluster) (task : Task) :
    ∃ m g, c.run task =
      { c with
        fleet := task.effect c.replicationFactor c.fleet
        queue := c.queue ++ (task.rest c.fleet).toList
        metrics := m
        registry := g } := by
  obtain ⟨m, hperform⟩ := perform_snd c task
  cases hrest : task.rest c.fleet with
  | none =>
    obtain ⟨g, hconclude⟩ := conclude_eq (c.perform task).2 task
    refine ⟨m, g, ?_⟩
    rw [run_of_rest_eq_none hrest, hconclude, hperform, Option.toList_none, List.append_nil]
  | some left =>
    refine ⟨m, c.registry, ?_⟩
    rw [run_of_rest_eq_some hrest, hperform]
    rfl

/-! ## Rounds -/

/-- The fleet after one stint of each of the tasks. -/
def settled (r : Nat) (fleet : Fleet) (tasks : List Task) : Fleet :=
  tasks.foldl (fun fleet task => task.effect r fleet) fleet

/-- What is left of the tasks after one stint of each. -/
def rests (r : Nat) (fleet : Fleet) : List Task → List Task
  | [] => []
  | task :: tasks => (task.rest fleet).toList ++ rests r (task.effect r fleet) tasks

theorem sameShape_settled (r : Nat) (fleet : Fleet) (tasks : List Task) :
    Fleet.SameShape fleet (settled r fleet tasks) := by
  induction tasks generalizing fleet with
  | nil => exact Fleet.SameShape.refl fleet
  | cons task tasks ih => exact (task.sameShape_effect r fleet).trans (ih _)

theorem foldl_run (tasks : List Task) (c : Cluster) : ∃ m g, tasks.foldl run c =
    { c with
      fleet := settled c.replicationFactor c.fleet tasks
      queue := c.queue ++ rests c.replicationFactor c.fleet tasks
      metrics := m
      registry := g } := by
  induction tasks generalizing c with
  | nil => exact ⟨_, _, by rw [rests, List.append_nil]; rfl⟩
  | cons task tasks ih =>
    obtain ⟨m, g, hrun⟩ := run_eq c task
    obtain ⟨m', g', htail⟩ := ih (c.run task)
    refine ⟨m', g', ?_⟩
    rw [List.foldl_cons, htail, hrun, rests, ← List.append_assoc]
    rfl

theorem round_eq (c : Cluster) : ∃ m g, c.round =
    { c with
      fleet := settled c.replicationFactor c.fleet c.queue
      queue := rests c.replicationFactor c.fleet c.queue
      metrics := m
      registry := g } :=
  foldl_run c.queue { c with queue := [] }

theorem stints_round (r : Nat) (fleet : Fleet) (tasks behind : List Task) :
    Stints r fleet (tasks ++ behind) (settled r fleet tasks) (behind ++ rests r fleet tasks) := by
  induction tasks generalizing fleet behind with
  | nil =>
    rw [rests, List.append_nil]
    exact .refl _ _
  | cons task tasks ih =>
    have hlater := ih (task.effect r fleet) (behind ++ (task.rest fleet).toList)
    rw [← List.append_assoc, List.append_assoc behind] at hlater
    exact .head hlater

theorem stints_of_round (r : Nat) (fleet : Fleet) (tasks : List Task) :
    Stints r fleet tasks (settled r fleet tasks) (rests r fleet tasks) := by
  have hround := stints_round r fleet tasks []
  rwa [List.append_nil, List.nil_append] at hround

theorem round_of_queue_eq_nil (h : c.queue = []) : c.round = c := by
  unfold round
  rw [h, List.foldl_nil, ← h]

theorem mem_rests {r : Nat} {fleet : Fleet} {left : Task} (h : left ∈ rests r fleet tasks) :
    ∃ task ∈ tasks, ∃ fleet, task.rest fleet = some left := by
  induction tasks generalizing fleet with
  | nil => exact absurd h List.not_mem_nil
  | cons task tasks ih =>
    rcases List.mem_append.1 h with hfirst | hlater
    · exact ⟨task, List.mem_cons_self, fleet, Option.mem_toList.1 hfirst⟩
    · obtain ⟨task', htask, hleft⟩ := ih hlater
      exact ⟨task', List.mem_cons_of_mem _ htask, hleft⟩

/-! ## Draining -/

theorem rounds_eq (n : Nat) (c : Cluster) : ∃ f q m g, rounds n c =
    { c with fleet := f, queue := q, metrics := m, registry := g } ∧
      Stints c.replicationFactor c.fleet c.queue f q := by
  induction n generalizing c with
  | zero => exact ⟨_, _, _, _, rfl, .refl _ _⟩
  | succ n ih =>
    obtain ⟨m, g, hround⟩ := round_eq c
    obtain ⟨f, q, m', g', hrounds, hstints⟩ := ih c.round
    refine ⟨f, q, m', g', ?_, ?_⟩
    · rw [rounds, hrounds, hround]
    · rw [hround] at hstints
      exact (stints_of_round _ _ _).trans hstints

theorem totalSize_append (tasks behind : List Task) :
    Task.totalSize (tasks ++ behind) = Task.totalSize tasks + Task.totalSize behind := by
  induction tasks with
  | nil => exact (Nat.zero_add _).symm
  | cons task tasks ih => rw [List.cons_append, Task.totalSize, Task.totalSize, ih, Nat.add_assoc]

theorem totalSize_rests (r : Nat) (fleet : Fleet) (hbegun : ∀ task ∈ tasks, 0 < task.size) :
    Task.totalSize (rests r fleet tasks) + tasks.length ≤ Task.totalSize tasks := by
  induction tasks generalizing fleet with
  | nil => exact Nat.le_refl _
  | cons task tasks ih =>
    obtain ⟨hfirst, htail⟩ := List.forall_mem_cons.1 hbegun
    have hlater := ih (task.effect r fleet) htail
    rw [rests, totalSize_append, Task.totalSize, List.length_cons]
    cases hrest : task.rest fleet with
    | none =>
      rw [Option.toList_none, Task.totalSize]
      omega
    | some left =>
      have hless := Task.size_rest_lt hfirst hrest
      rw [Option.toList_some, Task.totalSize, Task.totalSize]
      omega

/-- Tasks that have begun end in as many rounds as there are keys left. -/
theorem queue_rounds {n : Nat} (hbegun : ∀ task ∈ c.queue, 0 < task.size)
    (hsize : Task.totalSize c.queue ≤ n) : (rounds n c).queue = [] := by
  induction n generalizing c with
  | zero =>
    have hless := totalSize_rests c.replicationFactor c.fleet hbegun
    have hnone : c.queue.length = 0 := by omega
    exact List.length_eq_zero_iff.1 hnone
  | succ n ih =>
    obtain ⟨m, g, hround⟩ := round_eq c
    refine ih ?_ ?_
    · rw [hround]
      intro left hleft
      obtain ⟨task, -, fleet, hrest⟩ := mem_rests hleft
      exact Task.size_rest_pos hrest
    · rw [hround]
      have hless := totalSize_rests c.replicationFactor c.fleet hbegun
      show Task.totalSize (rests c.replicationFactor c.fleet c.queue) ≤ n
      cases hqueue : c.queue with
      | nil => exact Nat.zero_le n
      | cons task tasks =>
        rw [hqueue, List.length_cons] at hless
        rw [hqueue] at hsize
        omega

/-- Draining consists of stints, after which nothing is queued. -/
theorem drain_eq (c : Cluster) : ∃ f m g, c.drain =
    { c with fleet := f, queue := [], metrics := m, registry := g } ∧
      Stints c.replicationFactor c.fleet c.queue f [] := by
  obtain ⟨m, g, hround⟩ := round_eq c
  have hempty : c.drain.queue = [] := by
    refine queue_rounds ?_ (Nat.le_refl _)
    rw [hround]
    intro left hleft
    obtain ⟨task, -, fleet, hrest⟩ := mem_rests hleft
    exact Task.size_rest_pos hrest
  obtain ⟨f, q, m', g', hrounds, hstints⟩ :=
    rounds_eq (Task.totalSize c.round.queue) c.round
  have hdrain : c.drain = { c with fleet := f, queue := q, metrics := m', registry := g' } := by
    rw [drain, hrounds, hround]
  rw [hdrain] at hempty
  have hq : q = [] := hempty
  subst hq
  rw [hround] at hstints
  exact ⟨f, m', g', hdrain, (stints_of_round _ _ _).trans hstints⟩

theorem rounds_of_queue_eq_nil (n : Nat) (h : c.queue = []) : rounds n c = c := by
  induction n with
  | zero => rfl
  | succ n ih => rw [rounds, round_of_queue_eq_nil h, ih]

theorem drain_of_queue_eq_nil (h : c.queue = []) : c.drain = c := by
  unfold drain
  rw [round_of_queue_eq_nil h]
  exact rounds_of_queue_eq_nil _ h

/-- If every task ends within a stint, one round is enough. -/
theorem drain_eq_round (h : c.round.queue = []) : c.drain = c.round := by
  unfold drain
  exact rounds_of_queue_eq_nil _ h

theorem rounds_add (m n : Nat) (c : Cluster) : rounds (m + n) c = rounds n (rounds m c) := by
  induction m generalizing c with
  | zero => rw [Nat.zero_add, rounds]
  | succ m ih => rw [Nat.succ_add, rounds, rounds, ih]

/-- Once nothing is queued, it does not matter how many rounds there were. -/
theorem rounds_congr {m n : Nat} (hm : (rounds m c).queue = []) (hn : (rounds n c).queue = []) :
    rounds m c = rounds n c := by
  rcases Nat.le_total m n with hle | hle
  · rw [← Nat.add_sub_cancel' hle, rounds_add, rounds_of_queue_eq_nil _ hm]
  · rw [← Nat.add_sub_cancel' hle, rounds_add, rounds_of_queue_eq_nil _ hn]

theorem queue_drain (c : Cluster) : c.drain.queue = [] := by
  obtain ⟨f, m, g, hdrain, -⟩ := drain_eq c
  rw [hdrain]

/-- To drain a queue after a round comes to the same as to drain it at once. -/
theorem drain_round (c : Cluster) : c.round.drain = c.drain := by
  have hround : rounds (Task.totalSize c.round.round.queue + 1) c.round = c.round.drain := rfl
  rw [← hround]
  refine rounds_congr ?_ (queue_drain c)
  rw [hround]
  exact queue_drain c.round

/-- A task that has the queue to itself does its whole work. -/
theorem rounds_of_single {n : Nat} (hqueue : c.queue = [task]) (hbegun : 0 < task.size)
    (hsize : task.size ≤ n) : ∃ m g, rounds n c =
      { c with
        fleet := task.whole c.replicationFactor c.fleet
        queue := []
        metrics := m
        registry := g } := by
  induction n generalizing c task with
  | zero => omega
  | succ n ih =>
    obtain ⟨m, g, hround⟩ := round_eq c
    rw [hqueue] at hround
    rw [rounds, Task.whole_eq]
    cases hrest : task.rest c.fleet with
    | none =>
      refine ⟨m, g, ?_⟩
      rw [rests, hrest] at hround
      rw [rounds_of_queue_eq_nil n (by rw [hround]; rfl), hround]
      rfl
    | some left =>
      rw [rests, hrest] at hround
      have hless := Task.size_rest_lt hbegun hrest
      obtain ⟨m', g', hrounds⟩ := @ih c.round left (by rw [hround]; rfl)
        (Task.size_rest_pos hrest) (by omega)
      refine ⟨m', g', ?_⟩
      rw [hrounds, hround]
      rfl

theorem drain_of_single (hqueue : c.queue = [task]) : ∃ m g, c.drain =
    { c with
      fleet := task.whole c.replicationFactor c.fleet
      queue := []
      metrics := m
      registry := g } := by
  obtain ⟨m, g, hround⟩ := round_eq c
  rw [hqueue] at hround
  rw [Task.whole_eq]
  cases hrest : task.rest c.fleet with
  | none =>
    refine ⟨m, g, ?_⟩
    rw [rests, hrest] at hround
    rw [drain_eq_round (by rw [hround]; rfl), hround]
    rfl
  | some left =>
    rw [rests, hrest] at hround
    have hleft : c.round.queue = [left] := by
      rw [hround]
      rfl
    obtain ⟨m', g', hrounds⟩ := rounds_of_single (n := Task.totalSize c.round.queue) hleft
      (Task.size_rest_pos hrest) (by rw [hleft]; exact Nat.le_refl _)
    refine ⟨m', g', ?_⟩
    rw [drain, hrounds, hround]
    rfl

end Cluster

end QuorumRing
