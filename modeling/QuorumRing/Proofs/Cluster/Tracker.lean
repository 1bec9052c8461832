import QuorumRing.Cluster.Tracker
import QuorumRing.Proofs.Cluster.Session

/-!
# Tasks with and without time

A cluster counts no time: its queue holds the tasks that have not ended, and someone who waits lets
all of them end. A tracker knows when each task ends. What a cluster does is what a tracker does for
tasks that end in time (`Tracker.Tracks`): both take in a task unless they are closed, and after a
wait both have none. A shutdown drops the tasks that are not due within the time of grace
(`Tracker.shutdown_fst`), which are all tasks or none where a cluster is shut down.
-/

namespace QuorumRing.Tracker

variable {t : Tracker} {c : Cluster} {millis time : Nat}

theorem foldl_max_due (tasks : List TimedTask) (time : Nat) :
    time ≤ tasks.foldl (fun time task => max time task.due) time ∧
      ∀ task ∈ tasks, task.due ≤ tasks.foldl (fun time task => max time task.due) time := by
  induction tasks generalizing time with
  | nil => exact ⟨Nat.le_refl _, fun task h => absurd h List.not_mem_nil⟩
  | cons first tasks ih =>
    obtain ⟨hstart, hrest⟩ := ih (max time first.due)
    refine ⟨Nat.le_trans (Nat.le_max_left _ _) hstart, fun task htask => ?_⟩
    rcases List.mem_cons.1 htask with rfl | htask
    · exact Nat.le_trans (Nat.le_max_right _ _) hstart
    · exact hrest task htask

theorem due_le_idleTime {task : TimedTask} (h : task ∈ t.running) : task.due ≤ t.idleTime :=
  (foldl_max_due t.running t.now).2 task h

/-- The last task ends when it is due. -/
theorem idleTime_le (hnow : t.now ≤ time) (h : ∀ task ∈ t.running, task.due ≤ time) :
    t.idleTime ≤ time := by
  have hfold : ∀ (tasks : List TimedTask) (start : Nat), start ≤ time →
      (∀ task ∈ tasks, task.due ≤ time) →
        tasks.foldl (fun time task => max time task.due) start ≤ time := by
    intro tasks
    induction tasks with
    | nil => exact fun start hstart _ => hstart
    | cons first tasks ih =>
      intro start hstart htasks
      obtain ⟨hfirst, htasks⟩ := List.forall_mem_cons.1 htasks
      exact ih _ (Nat.max_le.2 ⟨hstart, hfirst⟩) htasks
  exact hfold t.running t.now hnow h

/-- Whoever waits until all is done finds nothing under way. -/
theorem running_waitIdle (t : Tracker) : t.waitIdle.running = [] := by
  refine List.filter_eq_nil_iff.2 fun task htask => ?_
  rw [decide_eq_true_eq, Nat.not_lt]
  exact due_le_idleTime htask

/-- Every task under way ends once, and those that do not fail are finished. -/
theorem finished_waitIdle (t : Tracker) : t.waitIdle.finished.Perm
    (t.finished ++ (t.running.filter (!·.fails)).map (·.label)) := by
  have hall : t.running.filter (·.due ≤ t.idleTime) = t.running :=
    List.filter_eq_self.2 fun task htask => decide_eq_true (due_le_idleTime htask)
  rw [waitIdle, runUntil, hall]
  exact ((List.mergeSort_perm t.running _).filter _ |>.map _).append_left _

/-- What is under way after a wait of limited time are the tasks that were not due within it. -/
theorem running_waitIdleFor (hmillis : 0 < millis) (t : Tracker) :
    (t.waitIdleFor millis).2.running = t.running.filter (t.now + millis < ·.due) := by
  unfold waitIdleFor
  split
  next hnone => rw [hnone, List.filter_nil]
  next =>
    split
    next hidle =>
      obtain ⟨-, hidle⟩ := Bool.and_eq_true_iff.1 hidle
      have hidle := of_decide_eq_true hidle
      refine (running_waitIdle t).trans (Eq.symm (List.filter_eq_nil_iff.2 fun task htask => ?_))
      rw [decide_eq_true_eq, Nat.not_lt]
      exact Nat.le_trans (due_le_idleTime htask) hidle
    next => rw [sleep, if_neg hmillis.ne', runUntil]

/-- A shutdown drops the tasks that are not due within the time of grace, and all of them if there is
none. -/
theorem shutdown_fst (t : Tracker) (millis : Nat) : (t.shutdown millis).1 =
    if millis = 0 then t.running.length
    else (t.running.filter (t.now + millis < ·.due)).length := by
  split
  next hzero =>
    subst hzero
    unfold shutdown waitIdleFor
    dsimp only
    split
    · rfl
    · rw [if_neg (by simp), sleep, if_pos rfl]
  next hmillis =>
    exact congrArg List.length (running_waitIdleFor (Nat.pos_of_ne_zero hmillis) { t with closed := true })

/-! ## The tasks of a cluster -/

/-- The tracker has the tasks under way that the cluster has queued, by whatever names. -/
structure Tracks (t : Tracker) (c : Cluster) : Prop where
  closed : t.closed = c.closed
  running : t.running.length = c.queue.length

/-- A task is taken in by both or by none. -/
theorem Tracks.start (h : Tracks t c) (label : String) (millis : Nat) (fails : Bool)
    (task : Task) : Tracks (t.start label millis fails).2 (c.spawn task) ∧
      ((t.start label millis fails).1 = true ↔ c.closed = false) := by
  unfold Tracker.start Cluster.spawn
  rw [h.closed]
  cases hclosed : c.closed with
  | true =>
    obtain ⟨g, hconclude⟩ := Cluster.conclude_eq c task
    refine ⟨⟨?_, ?_⟩, by simp⟩
    · rw [if_pos rfl, if_pos rfl, hconclude]
      exact h.closed
    · rw [if_pos rfl, if_pos rfl, hconclude]
      exact h.running
  | false =>
    rw [if_neg (by simp), if_neg (by simp)]
    refine ⟨⟨rfl, ?_⟩, by simp⟩
    show (t.running ++ [_]).length = (c.queue ++ [task]).length
    rw [List.length_append, List.length_append, h.running]
    rfl

/-- Nothing is left to do after a wait. -/
theorem Tracks.waitIdle (h : Tracks t c) : Tracks t.waitIdle c.drain := by
  obtain ⟨f, m, g, hdrain, -⟩ := Cluster.drain_eq c
  rw [hdrain]
  exact ⟨h.closed, congrArg List.length (running_waitIdle t)⟩

theorem closed_waitIdleFor (t : Tracker) (millis : Nat) :
    (t.waitIdleFor millis).2.closed = t.closed := by
  unfold waitIdleFor
  split
  · rfl
  · split
    · rfl
    · unfold sleep
      split <;> rfl

/-- If the tasks end within the time of grace, or there is none, both shutdowns drop the same number
of tasks, and afterwards nothing is under way and nothing is taken in. -/
theorem Tracks.shutdown (h : Tracks t c)
    (hdue : 0 < millis → ∀ task ∈ t.running, task.due ≤ t.now + millis) :
    (t.shutdown millis).1 = (c.shutdown millis).1 ∧
      Tracks (t.shutdown millis).2 (c.shutdown millis).2 := by
  have hdropped : (t.shutdown millis).1 = (c.shutdown millis).1 := by
    rw [shutdown_fst]
    unfold Cluster.shutdown
    dsimp only
    split
    next => exact h.running
    next hmillis =>
      refine congrArg List.length (List.filter_eq_nil_iff.2 fun task htask => ?_)
      rw [decide_eq_true_eq, Nat.not_lt]
      exact hdue (Nat.pos_of_ne_zero hmillis) task htask
  obtain ⟨f, m, g, hshutdown, -⟩ := Cluster.shutdown_snd c millis
  rw [hshutdown]
  exact ⟨hdropped, closed_waitIdleFor _ millis, rfl⟩

end QuorumRing.Tracker
