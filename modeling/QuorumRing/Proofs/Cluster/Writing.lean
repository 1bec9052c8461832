import QuorumRing.Proofs.Cluster.Effects

/-!
# A write under way

A write to several units hands a task to each of them and then waits for their outcomes, one after
the other. Nothing is promised about the order in which the tasks run, nor about when an outcome
arrives: a task may run long after the decision was taken, it may be dropped, and a wait may end
without an outcome. A course of the write is any sequence of such moves (`Writing.play`).

Two things hold throughout every course. No unit is heard twice (`Writing.Orderly`), so that among
the waits are as many acknowledgements as there are units heard to have stored the value. And the
copies are those of before, apart from the ones that the acknowledged tasks have stored
(`Writing.Stores`).
-/

namespace QuorumRing

/-- Switching a unit changes no copy. -/
theorem Fleet.copy_setActive (fleet : Fleet) (unit w : UnitRef) (active : Bool) (j : String) :
    (fleet.setActive unit active).copy w j = fleet.copy w j := by
  by_cases hw : unit = w
  · subst hw
    simp [setActive, copy, get, Pool.modify, StorageUnit.setActive]
  · simp [setActive, copy, get, Pool.modify, Pool.get_set_of_ne, hw]

/-- A write of an entry to several units, from the moment at which its tasks exist. -/
structure Writing where
  key : String
  value : String
  /-- The units that the value is written to. -/
  targets : List UnitRef
  /-- How the tasks ended that have ended, oldest first. -/
  outcomes : List (UnitRef × Wait) := []
  /-- What the waits brought: an outcome, or nothing in time. -/
  received : List (Option (UnitRef × Wait)) := []

/-- What can happen to a write under way. -/
inductive Writing.Move where
  /-- The task of a unit runs. -/
  | run (target : UnitRef)
  /-- The task of a unit is dropped. -/
  | drop (target : UnitRef)
  /-- A wait brings the outcome of a unit. -/
  | hear (target : UnitRef)
  /-- A wait brings nothing. -/
  | timeOut
  /-- A unit is switched on or off. -/
  | switch (unit : UnitRef) (active : Bool)

namespace Writing

/-- Whether the task of a unit has not ended yet. -/
def isRunning (w : Writing) (target : UnitRef) : Bool :=
  w.targets.contains target && !(w.outcomes.map Prod.fst).contains target

/-- How the waits ended, in the terms in which they are judged. -/
def waits (w : Writing) : List Wait := w.received.map fun answer => answer.elim .timedOut Prod.snd

/-- Whether one more wait is made. -/
def isWaiting (w : Writing) : Bool :=
  decide (w.received.length < w.targets.length) &&
    decide (w.waits.count .acknowledged < Quorum.needed w.targets.length)

/-- The decision, when no more waits are made. -/
def verdict (w : Writing) : Except Error Nat := Quorum.judge w.targets.length w.waits

/-- The units heard to have stored the value. -/
def acknowledgers (w : Writing) : List UnitRef :=
  (w.received.reduceOption.filter (·.2 = .acknowledged)).map Prod.fst

/-- Records how a task ended. -/
def finish (w : Writing) (target : UnitRef) (wait : Wait) : Writing :=
  { w with outcomes := w.outcomes ++ [(target, wait)] }

/-- Waits for an answer, if one more wait is made. -/
def receive (w : Writing) (answer : Option (UnitRef × Wait)) : Writing :=
  if w.isWaiting then { w with received := w.received ++ [answer] } else w

/-- Receives the outcome of a unit, if there is one and it was not received before. -/
def hear (w : Writing) (target : UnitRef) : Writing :=
  match w.outcomes.find? (·.1 = target) with
  | some outcome => if w.received.contains (some outcome) then w else w.receive (some outcome)
  | none => w

/-- One move of a write on a cluster. A move that is not possible changes nothing. -/
def step (s : Writing × Cluster) : Move → Writing × Cluster
  | .run target =>
    if s.1.isRunning target then
      let (wait, c) := s.2.write target s.1.key s.1.value
      (s.1.finish target wait, c)
    else s
  | .drop target => if s.1.isRunning target then (s.1.finish target .dropped, s.2) else s
  | .hear target => (s.1.hear target, s.2)
  | .timeOut => (s.1.receive none, s.2)
  | .switch unit active => (s.1, { s.2 with fleet := s.2.fleet.setActive unit active })

/-- A course of moves. -/
def play (s : Writing × Cluster) (moves : List Move) : Writing × Cluster := moves.foldl step s

theorem play_append (s : Writing × Cluster) (moves later : List Move) :
    play s (moves ++ later) = play (play s moves) later :=
  List.foldl_append

variable {w : Writing} {c : Cluster} {s : Writing × Cluster} {target unit : UnitRef} {wait : Wait}
  {move : Move}

/-! ## What the moves do -/

/-- The two writes are of the same entry to the same units. -/
structure Same (w w' : Writing) : Prop where
  key : w'.key = w.key
  value : w'.value = w.value
  targets : w'.targets = w.targets

theorem Same.trans {w w' w'' : Writing} (h : Same w w') (h' : Same w' w'') : Same w w'' :=
  ⟨h'.key.trans h.key, h'.value.trans h.value, h'.targets.trans h.targets⟩

theorem receive_outcomes (w : Writing) (answer : Option (UnitRef × Wait)) :
    (w.receive answer).outcomes = w.outcomes := by
  unfold receive
  split
  · rfl
  · rfl

theorem same_receive (w : Writing) (answer : Option (UnitRef × Wait)) :
    Same w (w.receive answer) := by
  unfold receive
  split
  · exact ⟨rfl, rfl, rfl⟩
  · exact ⟨rfl, rfl, rfl⟩

theorem hear_cases (w : Writing) (target : UnitRef) : w.hear target = w ∨
    ∃ wait, (target, wait) ∈ w.outcomes ∧ some (target, wait) ∉ w.received ∧
      w.hear target = w.receive (some (target, wait)) := by
  unfold hear
  split
  next outcome hfind =>
    have hmem := List.mem_of_find?_eq_some hfind
    have htarget : outcome.1 = target := by simpa using List.find?_some hfind
    subst htarget
    split
    · exact Or.inl rfl
    next hnew => exact Or.inr ⟨outcome.2, hmem, by simpa using hnew, rfl⟩
  · exact Or.inl rfl

theorem hear_outcomes (w : Writing) (target : UnitRef) :
    (w.hear target).outcomes = w.outcomes := by
  rcases hear_cases w target with h | ⟨wait, -, -, h⟩
  · rw [h]
  · rw [h, receive_outcomes]

theorem same_hear (w : Writing) (target : UnitRef) : Same w (w.hear target) := by
  rcases hear_cases w target with h | ⟨wait, -, -, h⟩
  · rw [h]
    exact ⟨rfl, rfl, rfl⟩
  · rw [h]
    exact same_receive w _

theorem step_run_of_running (h : s.1.isRunning target = true) : step s (.run target) =
    (s.1.finish target (s.2.write target s.1.key s.1.value).1,
      (s.2.write target s.1.key s.1.value).2) := by
  simp only [step, h, if_true]

theorem step_run_of_not_running (h : s.1.isRunning target = false) : step s (.run target) = s := by
  simp only [step, h, Bool.false_eq_true, if_false]

theorem same_step (s : Writing × Cluster) (move : Move) : Same s.1 (step s move).1 := by
  cases move with
  | run target =>
    cases h : s.1.isRunning target with
    | true =>
      rw [step_run_of_running h]
      exact ⟨rfl, rfl, rfl⟩
    | false =>
      rw [step_run_of_not_running h]
      exact ⟨rfl, rfl, rfl⟩
  | drop target =>
    rw [step]
    split
    · exact ⟨rfl, rfl, rfl⟩
    · exact ⟨rfl, rfl, rfl⟩
  | hear target => exact same_hear s.1 target
  | timeOut => exact same_receive s.1 none
  | switch unit active => exact ⟨rfl, rfl, rfl⟩

theorem same_play (s : Writing × Cluster) (moves : List Move) : Same s.1 (play s moves).1 := by
  induction moves generalizing s with
  | nil => exact ⟨rfl, rfl, rfl⟩
  | cons move moves ih => exact (same_step s move).trans (ih (step s move))

theorem isWaiting_eq_false_iff : w.isWaiting = false ↔ w.targets.length ≤ w.received.length ∨
    Quorum.needed w.targets.length ≤ w.waits.count .acknowledged := by
  rw [isWaiting, Bool.and_eq_false_iff, decide_eq_false_iff_not, decide_eq_false_iff_not,
    Nat.not_lt, Nat.not_lt]

/-! ## Who has been heard -/

/-- Every task ends once, and every outcome is received once. -/
structure Orderly (w : Writing) : Prop where
  distinct : (w.outcomes.map Prod.fst).Nodup
  mem_targets : ∀ outcome ∈ w.outcomes, outcome.1 ∈ w.targets
  sent : ∀ outcome, some outcome ∈ w.received → outcome ∈ w.outcomes
  once : w.received.reduceOption.Nodup
  received_le : w.received.length ≤ w.targets.length

namespace Orderly

theorem finish (h : w.Orderly) (hrunning : w.isRunning target = true) (wait : Wait) :
    (w.finish target wait).Orderly := by
  obtain ⟨htarget, hfresh⟩ := Bool.and_eq_true_iff.1 hrunning
  constructor
  case distinct =>
    show ((w.outcomes ++ [(target, wait)]).map Prod.fst).Nodup
    rw [List.map_append, List.nodup_append]
    refine ⟨h.distinct, List.nodup_singleton _, ?_⟩
    intro u hu v hv
    rw [List.mem_singleton.1 hv]
    rintro rfl
    rw [List.contains_iff_mem.2 hu] at hfresh
    simp at hfresh
  case mem_targets =>
    intro outcome hmem
    rcases List.mem_append.1 hmem with hmem | hmem
    · exact h.mem_targets outcome hmem
    · rw [List.mem_singleton.1 hmem]
      exact List.contains_iff_mem.1 htarget
  case sent => exact fun outcome hmem => List.mem_append_left _ (h.sent outcome hmem)
  case once => exact h.once
  case received_le => exact h.received_le

theorem receive (h : w.Orderly) {answer : Option (UnitRef × Wait)}
    (hsent : ∀ outcome ∈ answer, outcome ∈ w.outcomes ∧ some outcome ∉ w.received) :
    (w.receive answer).Orderly := by
  unfold Writing.receive
  split
  next hwaiting =>
    obtain ⟨hlength, -⟩ := Bool.and_eq_true_iff.1 hwaiting
    constructor
    case distinct => exact h.distinct
    case mem_targets => exact h.mem_targets
    case sent =>
      intro outcome hmem
      rcases List.mem_append.1 hmem with hmem | hmem
      · exact h.sent outcome hmem
      · exact (hsent outcome (List.mem_singleton.1 hmem).symm).1
    case once =>
      show (w.received ++ [answer]).reduceOption.Nodup
      rw [List.reduceOption_append, List.nodup_append]
      refine ⟨h.once, ?_, ?_⟩
      · cases answer with
        | none => exact List.nodup_nil
        | some outcome => exact List.nodup_singleton outcome
      · intro u hu v hv
        rw [List.reduceOption_mem_iff] at hu hv
        rintro rfl
        exact (hsent u (List.mem_singleton.1 hv).symm).2 hu
    case received_le =>
      show (w.received ++ [answer]).length ≤ w.targets.length
      rw [List.length_append]
      exact of_decide_eq_true hlength
  · exact h

theorem hear (h : w.Orderly) (target : UnitRef) : (w.hear target).Orderly := by
  rcases hear_cases w target with hsame | ⟨wait, hmem, hnew, hheard⟩
  · rwa [hsame]
  · rw [hheard]
    refine h.receive fun outcome houtcome => ?_
    obtain rfl := Option.some.inj houtcome
    exact ⟨hmem, hnew⟩

theorem step (h : s.1.Orderly) (move : Move) : (step s move).1.Orderly := by
  cases move with
  | run target =>
    cases hrunning : s.1.isRunning target with
    | true =>
      rw [step_run_of_running hrunning]
      exact h.finish hrunning _
    | false => rwa [step_run_of_not_running hrunning]
  | drop target =>
    rw [Writing.step]
    split
    next hrunning => exact h.finish hrunning _
    · exact h
  | hear target => exact h.hear target
  | timeOut => exact h.receive fun outcome houtcome => nomatch houtcome
  | switch unit active => exact h

theorem play (h : s.1.Orderly) (moves : List Move) : (play s moves).1.Orderly := by
  induction moves generalizing s with
  | nil => exact h
  | cons move moves ih => exact ih (h.step move)

theorem nodup_acknowledgers (h : w.Orderly) : w.acknowledgers.Nodup := by
  refine (h.once.filter _).map_on fun o ho o' ho' hsame => ?_
  have hwait := (List.mem_filter.1 ho).2
  have hwait' := (List.mem_filter.1 ho').2
  simp only [decide_eq_true_eq] at hwait hwait'
  exact Prod.ext hsame (hwait.trans hwait'.symm)

theorem mem_outcomes_of_acknowledger (h : w.Orderly) (hunit : unit ∈ w.acknowledgers) :
    (unit, .acknowledged) ∈ w.outcomes := by
  obtain ⟨outcome, hmem, rfl⟩ := List.mem_map.1 hunit
  obtain ⟨hheard, hwait⟩ := List.mem_filter.1 hmem
  rw [← of_decide_eq_true hwait]
  exact h.sent outcome (List.reduceOption_mem_iff.1 hheard)

end Orderly

/-- The acknowledgements among the waits are those of the units that were heard. -/
theorem count_waits (w : Writing) : w.waits.count .acknowledged = w.acknowledgers.length := by
  rw [waits, acknowledgers, List.length_map]
  induction w.received with
  | nil => rfl
  | cons answer received ih =>
    rw [List.map_cons, List.count_cons, ih]
    cases answer with
    | none => rfl
    | some outcome =>
      rw [List.reduceOption_cons_of_some, List.filter_cons]
      by_cases hwait : outcome.2 = .acknowledged
      · simp [hwait]
      · simp [hwait]

/-! ## The decision -/

/-- When no more waits are made, the write has been acknowledged by as many units as it needs, or
there has been a wait for every unit. -/
theorem verdict_of_not_waiting (h : w.Orderly) (hdone : w.isWaiting = false) :
    (Quorum.needed w.targets.length ≤ w.acknowledgers.length ∧
      w.verdict = .ok (Quorum.needed w.targets.length)) ∨
    (w.acknowledgers.length < Quorum.needed w.targets.length ∧
      w.waits.length = w.targets.length ∧
      w.verdict = .error
        (.quorumNotReached (Quorum.needed w.targets.length) w.acknowledgers.length)) := by
  have hlength : w.waits.length = w.received.length := List.length_map _
  have hle := h.received_le
  have htake : w.waits.take w.targets.length = w.waits := List.take_of_length_le (by omega)
  rw [verdict, Quorum.judge_eq, htake, count_waits]
  by_cases hgoal : Quorum.needed w.targets.length ≤ w.acknowledgers.length
  · exact Or.inl ⟨hgoal, if_pos hgoal⟩
  · have hdone := isWaiting_eq_false_iff.1 hdone
    rw [count_waits] at hdone
    exact Or.inr ⟨by omega, by omega, if_neg hgoal⟩

/-! ## What is stored -/

/-- The copies are those that the cluster had at first, apart from the ones that the acknowledged
tasks have stored. -/
def Stores (first : Cluster) (s : Writing × Cluster) : Prop :=
  ∀ unit j, s.2.fleet.copy unit j =
    if (unit, .acknowledged) ∈ s.1.outcomes ∧ j = s.1.key then some s.1.value
    else first.fleet.copy unit j

theorem stores_start (hnone : w.outcomes = []) (c : Cluster) : Stores c (w, c) := by
  intro unit j
  show c.fleet.copy unit j = _
  simp [hnone]

theorem Stores.step {first : Cluster} (h : Stores first s) (move : Move) :
    Stores first (step s move) := by
  cases move with
  | run target =>
    cases hrunning : s.1.isRunning target with
    | false => rwa [step_run_of_not_running hrunning]
    | true =>
      obtain ⟨m, hwrite⟩ := Cluster.write_snd s.2 target s.1.key s.1.value
      rw [step_run_of_running hrunning]
      intro unit j
      rw [hwrite, Cluster.write_fst]
      refine (Fleet.copy_attempt_put _ target unit s.1.key s.1.value j).trans ?_
      rw [h unit j]
      simp only [finish, List.mem_append, List.mem_singleton, Prod.mk.injEq]
      by_cases hunit : unit = target
      · subst hunit
        cases s.2.fleet.pool.isActive unit <;> by_cases hj : j = s.1.key <;> simp [hj]
      · simp [hunit]
  | drop target =>
    rw [Writing.step]
    split
    · intro unit j
      refine (h unit j).trans ?_
      simp [finish]
    · exact h
  | hear target =>
    intro unit j
    show s.2.fleet.copy unit j = _
    rw [h unit j]
    simp only [Writing.step, hear_outcomes, (same_hear s.1 target).key, (same_hear s.1 target).value]
  | timeOut =>
    intro unit j
    show s.2.fleet.copy unit j = _
    rw [h unit j]
    simp only [Writing.step, receive_outcomes, (same_receive s.1 none).key,
      (same_receive s.1 none).value]
  | switch switched active =>
    intro unit j
    refine Eq.trans ?_ (h unit j)
    exact Fleet.copy_setActive s.2.fleet switched unit active j

theorem Stores.play {first : Cluster} (h : Stores first s) (moves : List Move) :
    Stores first (play s moves) := by
  induction moves generalizing s with
  | nil => exact h
  | cons move moves ih => exact ih (h.step move)

/-- During the moves the task of the unit runs, and the unit is active at that moment. -/
def Lands (s : Writing × Cluster) (moves : List Move) (unit : UnitRef) : Prop :=
  ∃ before after, moves = before ++ .run unit :: after ∧
    (play s before).1.isRunning unit = true ∧
    (play s before).2.fleet.pool.isActive unit = true

theorem lands_nil : ¬ Lands s [] unit := by
  rintro ⟨before, after, hmoves, -⟩
  simp at hmoves

theorem lands_cons {moves : List Move} : Lands s (move :: moves) unit ↔
    (move = .run unit ∧ s.1.isRunning unit = true ∧ s.2.fleet.pool.isActive unit = true) ∨
    Lands (step s move) moves unit := by
  constructor
  · rintro ⟨before, after, hmoves, hrunning, hactive⟩
    cases before with
    | nil =>
      obtain ⟨rfl, -⟩ := List.cons.inj hmoves
      exact Or.inl ⟨rfl, hrunning, hactive⟩
    | cons first before =>
      obtain ⟨rfl, rfl⟩ := List.cons.inj hmoves
      exact Or.inr ⟨before, after, rfl, hrunning, hactive⟩
  · rintro (⟨rfl, hrunning, hactive⟩ | ⟨before, after, rfl, hrunning, hactive⟩)
    · exact ⟨[], moves, rfl, hrunning, hactive⟩
    · exact ⟨move :: before, after, rfl, hrunning, hactive⟩

theorem acknowledged_step_iff : (unit, .acknowledged) ∈ (step s move).1.outcomes ↔
    (unit, .acknowledged) ∈ s.1.outcomes ∨
      (move = .run unit ∧ s.1.isRunning unit = true ∧ s.2.fleet.pool.isActive unit = true) := by
  cases move with
  | run target =>
    cases hrunning : s.1.isRunning target with
    | false =>
      rw [step_run_of_not_running hrunning]
      refine ⟨Or.inl, fun h => h.resolve_right ?_⟩
      rintro ⟨hmove, htrue, -⟩
      rw [Move.run.inj hmove, htrue] at hrunning
      simp at hrunning
    | true =>
      rw [step_run_of_running hrunning, Cluster.write_fst]
      simp only [finish, List.mem_append, List.mem_singleton, Prod.mk.injEq, Move.run.injEq]
      by_cases hunit : unit = target
      · subst hunit
        cases s.2.fleet.pool.isActive unit <;> simp [hrunning]
      · simp [hunit, Ne.symm hunit]
  | drop target =>
    rw [step]
    split
    · simp [finish]
    · simp
  | hear target =>
    show _ ∈ (s.1.hear target).outcomes ↔ _
    simp [hear_outcomes]
  | timeOut =>
    show _ ∈ (s.1.receive none).outcomes ↔ _
    simp [receive_outcomes]
  | switch switched active => simp [step]

/-- The acknowledged tasks are those that have run while their units were active. -/
theorem acknowledged_play_iff (moves : List Move) :
    (unit, .acknowledged) ∈ (play s moves).1.outcomes ↔
      (unit, .acknowledged) ∈ s.1.outcomes ∨ Lands s moves unit := by
  induction moves generalizing s with
  | nil => exact ⟨Or.inl, fun h => h.resolve_right lands_nil⟩
  | cons move moves ih =>
    refine (ih (s := step s move)).trans ?_
    rw [acknowledged_step_iff, lands_cons, or_assoc]

end Writing

end QuorumRing
