import QuorumRing.Proofs.Cluster.Session
import QuorumRing.Proofs.Cluster.Writing

/-!
# The decision of a write

The verdict on a write depends on the waits that were made, which are at most as many as there are
units, and on nothing else. Where it is a success, a majority of the units has stored the value;
where it is not, those that have stored it keep it. This holds of every course that a write can take
(`Writing.decided_play`), and the one that a cluster takes is among them (`Cluster.exists_course`).
-/

namespace QuorumRing

/-! ## Courses without surprises -/

namespace Writing

variable {w : Writing} {c : Cluster} {s : Writing × Cluster} {target unit : UnitRef} {wait : Wait}

theorem isRunning_iff : w.isRunning target = true ↔
    target ∈ w.targets ∧ target ∉ w.outcomes.map Prod.fst := by
  rw [isRunning, Bool.and_eq_true, Bool.not_eq_true', List.contains_iff_mem, ← Bool.not_eq_true,
    List.contains_iff_mem]

theorem isRunning_finish : (w.finish target wait).isRunning unit = true ↔
    w.isRunning unit = true ∧ unit ≠ target := by
  rw [isRunning_iff, isRunning_iff, finish, List.map_append, List.mem_append, not_or, and_assoc]
  simp

theorem play_run_all {targets : List UnitRef} (hnodup : targets.Nodup)
    (hrunning : ∀ target ∈ targets, w.isRunning target = true) (c : Cluster) :
    play (w, c) (targets.map .run) =
      ({ w with outcomes := w.outcomes ++ targets.zip (c.writeAll w.key w.value targets).1 },
        (c.writeAll w.key w.value targets).2) := by
  induction targets generalizing w c with
  | nil => simp [play, Cluster.writeAll]
  | cons target targets ih =>
    obtain ⟨hfresh, hnodup⟩ := List.nodup_cons.1 hnodup
    obtain ⟨hfirst, hrunning⟩ := List.forall_mem_cons.1 hrunning
    have hstep := step_run_of_running (s := (w, c)) hfirst
    have hrest := ih (w := w.finish target (c.write target w.key w.value).1) hnodup (fun u hu =>
      isRunning_finish.2 ⟨hrunning u hu, fun hsame => hfresh (hsame ▸ hu)⟩) (c.write target w.key w.value).2
    rw [List.map_cons, play, List.foldl_cons, hstep]
    refine hrest.trans ?_
    simp [finish, Cluster.writeAll, List.zip_cons_cons]

theorem play_drop_all {targets : List UnitRef} (hnodup : targets.Nodup)
    (hrunning : ∀ target ∈ targets, w.isRunning target = true) (c : Cluster) :
    play (w, c) (targets.map .drop) =
      ({ w with outcomes := w.outcomes ++ targets.map (·, .dropped) }, c) := by
  induction targets generalizing w with
  | nil => simp [play]
  | cons target targets ih =>
    obtain ⟨hfresh, hnodup⟩ := List.nodup_cons.1 hnodup
    obtain ⟨hfirst, hrunning⟩ := List.forall_mem_cons.1 hrunning
    have hstep : step (w, c) (.drop target) = (w.finish target .dropped, c) := by
      simp only [step, hfirst, if_true]
    have hrest := ih (w := w.finish target .dropped) hnodup fun u hu =>
      isRunning_finish.2 ⟨hrunning u hu, fun hsame => hfresh (hsame ▸ hu)⟩
    rw [List.map_cons, play, List.foldl_cons, hstep]
    refine hrest.trans ?_
    simp [finish]

theorem receive_of_waiting (h : w.isWaiting = true) (answer : Option (UnitRef × Wait)) :
    w.receive answer = { w with received := w.received ++ [answer] } :=
  if_pos h

theorem receive_of_not_waiting (h : w.isWaiting = false) (answer : Option (UnitRef × Wait)) :
    w.receive answer = w :=
  if_neg (by simp [h])

theorem hear_of_not_waiting (h : w.isWaiting = false) (target : UnitRef) : w.hear target = w := by
  rcases hear_cases w target with hsame | ⟨wait, -, -, hheard⟩
  · exact hsame
  · rw [hheard, receive_of_not_waiting h]

/-- An outcome that was not received yet is received. -/
theorem hear_of_new {outcome : UnitRef × Wait} (hmem : outcome ∈ w.outcomes)
    (hnew : some outcome ∉ w.received) (hdistinct : (w.outcomes.map Prod.fst).Nodup) :
    w.hear outcome.1 = w.receive (some outcome) := by
  obtain ⟨heard, rest, houtcomes⟩ := List.append_of_mem hmem
  rw [houtcomes, List.map_append, List.map_cons, List.nodup_append] at hdistinct
  obtain ⟨-, -, hapart⟩ := hdistinct
  have hother : ∀ o ∈ heard, o.1 ≠ outcome.1 := fun o ho =>
    hapart o.1 (List.mem_map_of_mem ho) outcome.1 List.mem_cons_self
  have hfind : w.outcomes.find? (·.1 = outcome.1) = some outcome := by
    rw [houtcomes, List.find?_append, List.find?_eq_none.2 (by simpa using hother)]
    simp
  unfold hear
  rw [hfind]
  dsimp only
  rw [if_neg (mt List.contains_iff_mem.1 hnew)]

/-- The outcomes are received in the order in which they were sent. -/
theorem hear_next {heard rest : List (UnitRef × Wait)} {outcome : UnitRef × Wait}
    (houtcomes : w.outcomes = heard ++ outcome :: rest) (hreceived : w.received = heard.map some)
    (hdistinct : (w.outcomes.map Prod.fst).Nodup) (hwaiting : w.isWaiting = true) :
    w.hear outcome.1 = { w with received := (heard ++ [outcome]).map some } := by
  have hmem : outcome ∈ w.outcomes := by simp [houtcomes]
  have hnodup := List.Nodup.of_map _ hdistinct
  rw [houtcomes, List.nodup_append] at hnodup
  have hnew : some outcome ∉ w.received := by
    rw [hreceived, List.mem_map]
    rintro ⟨o, ho, heq⟩
    exact hnodup.2.2 o ho outcome List.mem_cons_self (Option.some.inj heq)
  rw [hear_of_new hmem hnew hdistinct, receive_of_waiting hwaiting, hreceived, List.map_append,
    List.map_cons, List.map_nil]

/-- The outcomes are received in the order in which they were sent, until no more waits are made. -/
theorem play_hear_all {heard rest : List (UnitRef × Wait)} (houtcomes : w.outcomes = heard ++ rest)
    (hreceived : w.received = heard.map some) (hdistinct : (w.outcomes.map Prod.fst).Nodup)
    (c : Cluster) : ∃ taken, taken <+: w.outcomes ∧
      play (w, c) (rest.map fun outcome => .hear outcome.1) =
        ({ w with received := taken.map some }, c) ∧
      (taken = w.outcomes ∨ ({ w with received := taken.map some } : Writing).isWaiting = false) := by
  induction rest generalizing w heard with
  | nil =>
    rw [List.append_nil] at houtcomes
    refine ⟨heard, ⟨[], by rw [houtcomes, List.append_nil]⟩, ?_, Or.inl houtcomes.symm⟩
    rw [← hreceived]
    rfl
  | cons outcome rest ih =>
    have hstep : step (w, c) (.hear outcome.1) = (w.hear outcome.1, c) := rfl
    rw [List.map_cons, play, List.foldl_cons, hstep]
    cases hwaiting : w.isWaiting with
    | false =>
      have hdone : ∀ outcomes : List (UnitRef × Wait),
          play (w, c) (outcomes.map fun outcome => .hear outcome.1) = (w, c) := by
        intro outcomes
        induction outcomes with
        | nil => rfl
        | cons first outcomes ih =>
          refine Eq.trans ?_ ih
          rw [List.map_cons, play, List.foldl_cons, step, hear_of_not_waiting hwaiting]
          rfl
      rw [hear_of_not_waiting hwaiting]
      have hsame : ({ w with received := heard.map some } : Writing) = w := by
        rw [← hreceived]
      refine ⟨heard, ⟨outcome :: rest, houtcomes.symm⟩, ?_, Or.inr (by rwa [hsame])⟩
      rw [hsame]
      exact hdone rest
    | true =>
      rw [hear_next houtcomes hreceived hdistinct hwaiting]
      have hsplit : w.outcomes = (heard ++ [outcome]) ++ rest := by
        rw [houtcomes, List.append_assoc, List.singleton_append]
      exact ih (w := { w with received := (heard ++ [outcome]).map some }) hsplit rfl hdistinct

/-- A wait that brings nothing is made as often as there are units, if no other is. -/
theorem play_timeOut_all (hnone : w.received = []) (c : Cluster) :
    play (w, c) (List.replicate w.targets.length .timeOut) =
      ({ w with received := List.replicate w.targets.length none }, c) := by
  have hwaits : ∀ n, n ≤ w.targets.length → play (w, c) (List.replicate n .timeOut) =
      ({ w with received := List.replicate n none }, c) := by
    intro n
    induction n with
    | zero =>
      intro _
      show (w, c) = _
      rw [List.replicate_zero, ← hnone]
    | succ n ih =>
      intro hn
      rw [List.replicate_succ', play_append, ih (by omega)]
      have hwaiting :
          ({ w with received := List.replicate n none } : Writing).isWaiting = true := by
        have hneeded : 0 < Quorum.needed w.targets.length := Nat.succ_pos _
        simp only [isWaiting, waits, List.length_replicate, List.map_replicate, Option.elim_none,
          Bool.and_eq_true, decide_eq_true_eq]
        refine ⟨by omega, ?_⟩
        rw [List.count_replicate]
        exact hneeded
      show (Writing.receive _ none, c) = _
      rw [receive_of_waiting hwaiting, List.replicate_succ']
  exact hwaits w.targets.length (Nat.le_refl _)

/-- The verdict on the waits that were made is that on all outcomes. -/
theorem judge_of_taken {n : Nat} {taken waits : List Wait} (htaken : taken <+: waits)
    (hlength : waits.length = n)
    (hdone : taken = waits ∨ Quorum.needed n ≤ taken.count .acknowledged) :
    Quorum.judge n taken = Quorum.judge n waits := by
  rcases hdone with rfl | hdone
  · rfl
  · have hself : taken.take n = taken := List.take_of_length_le (hlength ▸ htaken.length_le)
    have hall : waits.take n = waits := List.take_of_length_le (Nat.le_of_eq hlength)
    have hmore : taken.count .acknowledged ≤ waits.count .acknowledged :=
      htaken.sublist.count_le _
    rw [Quorum.judge_eq, Quorum.judge_eq, hself, hall, if_pos hdone, if_pos (by omega)]

theorem isRunning_of_ended (houtcomes : w.outcomes.map Prod.fst = w.targets) (target : UnitRef) :
    w.isRunning target = false := by
  rw [← Bool.not_eq_true, isRunning_iff, houtcomes]
  exact fun h => h.2 h.1

/-- Once every task has ended, the outcomes are received in the order in which they were sent, and
the verdict is that on all of them. -/
theorem play_hear_outcomes {outcomes : List (UnitRef × Wait)} {moves : List Move} {c' : Cluster}
    (hplay : play (w, c) moves = ({ w with outcomes }, c')) (hnone : w.received = [])
    (hended : outcomes.map Prod.fst = w.targets) (hnodup : w.targets.Nodup) :
    let s := play (w, c) (moves ++ w.targets.map .hear)
    s.1.isWaiting = false ∧ (∀ target, s.1.isRunning target = false) ∧
      s.1.verdict = Quorum.judge w.targets.length (outcomes.map Prod.snd) ∧ s.2 = c' := by
  have hfresh : ({ w with outcomes } : Writing).outcomes = [] ++ outcomes := rfl
  obtain ⟨taken, htaken, hheard, hdone⟩ := play_hear_all hfresh hnone (hended ▸ hnodup) c'
  have htaken : taken <+: outcomes := htaken
  have hlength : outcomes.length = w.targets.length := by
    rw [← hended, List.length_map]
  let final : Writing := { w with outcomes, received := taken.map some }
  have hmoves : w.targets.map Move.hear = outcomes.map fun outcome => .hear outcome.1 := by
    rw [← hended, List.map_map]
    rfl
  have hfinal : play (w, c) (moves ++ w.targets.map .hear) = (final, c') := by
    rw [play_append, hplay, hmoves]
    exact hheard
  have hwaits : final.waits = taken.map Prod.snd := by
    rw [waits, List.map_map]
    rfl
  have hwaiting : final.isWaiting = false := by
    rcases hdone with hall | hdone
    · refine isWaiting_eq_false_iff.2 (Or.inl ?_)
      show w.targets.length ≤ (taken.map some).length
      rw [hall, List.length_map, hlength]
    · exact hdone
  have hverdict : final.verdict = Quorum.judge w.targets.length (outcomes.map Prod.snd) := by
    rw [verdict, hwaits]
    refine judge_of_taken (htaken.map _) (by rw [List.length_map, hlength]) ?_
    have hdone := isWaiting_eq_false_iff.1 hwaiting
    rw [hwaits] at hdone
    rcases hdone with hall | hgoal
    · have hall : w.targets.length ≤ (taken.map some).length := hall
      rw [List.length_map] at hall
      exact Or.inl (by rw [htaken.eq_of_length_le (by omega)])
    · exact Or.inr hgoal
  intro s
  have hs : s = (final, c') := hfinal
  rw [hs]
  exact ⟨hwaiting, isRunning_of_ended hended, hverdict, rfl⟩

end Writing

/-! ## The course that a cluster takes -/

namespace Cluster

variable {c : Cluster} {key value : String} {targets : List UnitRef}

theorem length_writeAll (c : Cluster) (key value : String) (targets : List UnitRef) :
    (c.writeAll key value targets).1.length = targets.length := by
  induction targets generalizing c with
  | nil => rfl
  | cons target targets ih => exact congrArg (· + 1) (ih (c.write target key value).2)

theorem foldl_run_writes (c : Cluster) (key value : String) (targets : List UnitRef) :
    (targets.map (.write · key value)).foldl run c = (c.writeAll key value targets).2 := by
  induction targets generalizing c with
  | nil => rfl
  | cons target targets ih => exact ih (c.write target key value).2

theorem round_append_writes (c : Cluster) (key value : String) (targets : List UnitRef) :
    ({ c with queue := c.queue ++ targets.map (.write · key value) } : Cluster).round =
      (c.round.writeAll key value targets).2 := by
  rw [round, List.foldl_append, foldl_run_writes]
  rfl

/-- The verdict of a cluster is that of a course which begins when every older task has done a stint,
and at the end of which all tasks of the write have ended. What becomes of the cluster then is what the
course makes of it. No task is dropped, unless the cluster was shut down. -/
theorem exists_course (c : Cluster) (key value : String) (hnodup : targets.Nodup) :
    ∃ moves, let s := Writing.play ({ key, value, targets }, c.round) moves
      (c.closed = false → ∀ target, .drop target ∉ moves) ∧ s.1.isWaiting = false ∧
        (∀ target, s.1.isRunning target = false) ∧
        s.1.verdict = (c.writeQuorum key value targets).1 ∧
        (c.closed = false → 0 < c.writeTimeout → s.2 = (c.writeQuorum key value targets).2) ∧
        s.2.drain = (c.writeQuorum key value targets).2.drain ∧
        (c.round.queue = [] → s.2 = (c.writeQuorum key value targets).2.drain) := by
  let start : Writing := { key, value, targets }
  -- if the older tasks have come to their end, nothing is left to drain after the course
  have hidle : ∀ c' : Cluster, c'.queue = c.round.queue →
      c'.drain = (c.writeQuorum key value targets).2.drain →
        c'.drain = (c.writeQuorum key value targets).2.drain ∧
        (c.round.queue = [] → c' = (c.writeQuorum key value targets).2.drain) :=
    fun c' hqueue hdrain => ⟨hdrain, fun hnil =>
      (drain_of_queue_eq_nil (hqueue.trans hnil)).symm.trans hdrain⟩
  have hwritten : (c.round.writeAll key value targets).2.queue = c.round.queue := by
    obtain ⟨m, hwritten⟩ := writeAll_snd c.round key value targets
    rw [hwritten]
  have hrunning : ∀ target ∈ targets, start.isRunning target = true := fun target htarget =>
    Writing.isRunning_iff.2 ⟨htarget, List.not_mem_nil⟩
  -- how the tasks end if they run
  let outcomes := targets.zip (c.round.writeAll key value targets).1
  have hlength := length_writeAll c.round key value targets
  have hended : outcomes.map Prod.fst = targets := List.map_fst_zip (by rw [hlength])
  cases hclosed : c.closed with
  | true =>
    -- all tasks are dropped
    have hdrops := Writing.play_drop_all hnodup hrunning c.round
    have hdropped : (targets.map fun target => (target, Wait.dropped)).map Prod.fst = targets := by
      rw [List.map_map]
      exact List.map_id _
    obtain ⟨hwaiting, hended, hverdict, hcluster⟩ :=
      Writing.play_hear_outcomes hdrops rfl hdropped hnodup
    refine ⟨_, fun hopen => absurd hopen (by simp), hwaiting, hended, hverdict.trans ?_,
      fun hopen => absurd hopen (by simp), hidle _ (congrArg queue hcluster) ?_⟩
    · rw [writeQuorum, fanOut, hclosed, if_pos rfl]
      rw [List.nil_append, List.map_map]
      rfl
    · rw [writeQuorum, fanOut, hclosed, if_pos rfl]
      exact (congrArg drain hcluster).trans (drain_round c)
  | false =>
    by_cases htime : c.writeTimeout = 0
    · -- the decision is taken before the tasks run
      have hwaits := Writing.play_timeOut_all (w := start) rfl c.round
      have hruns := Writing.play_run_all
        (w := { start with received := List.replicate targets.length none }) hnodup hrunning c.round
      have hall : Writing.play (start, c.round)
            (List.replicate targets.length .timeOut ++ targets.map .run) =
          ({ start with outcomes, received := List.replicate targets.length none },
            (c.round.writeAll key value targets).2) := by
        rw [Writing.play_append, hwaits]
        exact hruns
      refine ⟨List.replicate targets.length .timeOut ++ targets.map .run, ?_⟩
      intro s
      have hs : s = _ := hall
      rw [hs]
      refine ⟨fun _ target => by simp, ?_, Writing.isRunning_of_ended hended, ?_,
        fun _ hsome => absurd htime (Nat.ne_of_gt hsome), hidle _ hwritten ?_⟩
      · refine Writing.isWaiting_eq_false_iff.2 (Or.inl ?_)
        show targets.length ≤ (List.replicate targets.length none).length
        rw [List.length_replicate]
      · rw [writeQuorum, fanOut, hclosed, if_neg (by simp), if_pos htime, Writing.verdict,
          Writing.waits]
        rw [List.map_replicate, List.map_const']
        rfl
      · rw [writeQuorum, fanOut, if_neg (by simp [hclosed]), if_pos htime]
        rw [← round_append_writes, drain_round]
    · -- all tasks run before the first wait
      have hruns := Writing.play_run_all hnodup hrunning c.round
      obtain ⟨hwaiting, hended, hverdict, hcluster⟩ :=
        Writing.play_hear_outcomes hruns rfl hended hnodup
      have hsame : (c.round.writeAll key value targets).2 = (c.writeQuorum key value targets).2 := by
        rw [writeQuorum, fanOut, hclosed, if_neg (by simp), if_neg htime]
      refine ⟨_, fun _ target => by simp, hwaiting, hended, hverdict.trans ?_,
        fun _ _ => hcluster.trans hsame, hidle _ ((congrArg queue hcluster).trans hwritten)
          (congrArg drain (hcluster.trans hsame))⟩
      rw [writeQuorum, fanOut, hclosed, if_neg (by simp), if_neg htime]
      rw [List.nil_append, List.map_snd_zip (by rw [hlength])]

end Cluster

/-! ## What a write comes to -/

namespace Writing

variable {key value : String} {targets : List UnitRef}

/-- What a write to the units has come to after the moves. -/
structure Decided (key value : String) (targets : List UnitRef) (c : Cluster) (moves : List Move)
    (s : Writing × Cluster) : Prop where
  waits_le : s.1.waits.length ≤ targets.length
  /-- As long as waits are made, there is a unit that was not heard. -/
  outstanding : s.1.isWaiting = true → ∃ target ∈ targets,
    target ∉ s.1.received.reduceOption.map Prod.fst
  acknowledgers_nodup : s.1.acknowledgers.Nodup
  /-- Who is heard to have stored the value holds it, be the write successful or not. -/
  acknowledgers : ∀ unit ∈ s.1.acknowledgers, unit ∈ targets ∧
    Lands ({ key, value, targets }, c) moves unit ∧ s.2.fleet.copy unit key = some value
  count : s.1.waits.count .acknowledged = s.1.acknowledgers.length
  /-- A write that succeeds was acknowledged by a majority. -/
  succeeds : s.1.isWaiting = false →
    Quorum.needed targets.length ≤ s.1.waits.count .acknowledged →
      s.1.verdict = .ok (Quorum.needed targets.length) ∧
        targets.length < 2 * s.1.acknowledgers.length
  /-- A write that fails tells how many acknowledgements it has seen. -/
  fails : s.1.isWaiting = false →
    s.1.waits.count .acknowledged < Quorum.needed targets.length →
      s.1.verdict = .error (.quorumNotReached (Quorum.needed targets.length)
        (s.1.waits.count .acknowledged))
  stores : ∀ unit, Lands ({ key, value, targets }, c) moves unit →
    s.2.fleet.copy unit key = some value
  spares : ∀ unit j, j ≠ key ∨ ¬Lands ({ key, value, targets }, c) moves unit →
    s.2.fleet.copy unit j = c.fleet.copy unit j

theorem orderly_start : ({ key, value, targets } : Writing).Orderly where
  distinct := List.nodup_nil
  mem_targets _ h := absurd h List.not_mem_nil
  sent _ h := absurd h List.not_mem_nil
  once := List.nodup_nil
  received_le := Nat.zero_le _

theorem decided_play (key value : String) (hnodup : targets.Nodup) (c : Cluster)
    (moves : List Move) :
    Decided key value targets c moves (play ({ key, value, targets }, c) moves) := by
  have horderly := orderly_start.play (s := ({ key, value, targets }, c)) moves
  have hsame := same_play ({ key, value, targets }, c) moves
  have hstores := (stores_start (w := { key, value, targets }) rfl c).play moves
  have hlands : ∀ unit, (unit, .acknowledged) ∈
      (play ({ key, value, targets }, c) moves).1.outcomes →
        Lands ({ key, value, targets }, c) moves unit := fun unit hmem =>
    ((acknowledged_play_iff moves).1 hmem).resolve_left List.not_mem_nil
  have hcopy : ∀ unit, Lands ({ key, value, targets }, c) moves unit →
      (play ({ key, value, targets }, c) moves).2.fleet.copy unit key = some value := by
    intro unit hland
    have hmem := (acknowledged_play_iff moves).2 (Or.inr hland)
    rw [hstores, hsame.key, hsame.value, if_pos ⟨hmem, rfl⟩]
  have hcount := count_waits (play ({ key, value, targets }, c) moves).1
  have hlength : (play ({ key, value, targets }, c) moves).1.targets.length = targets.length :=
    congrArg List.length hsame.targets
  constructor
  case waits_le =>
    have hle := horderly.received_le
    rw [hsame.targets] at hle
    rwa [waits, List.length_map]
  case outstanding =>
    intro hwaiting
    by_contra hnone
    have hall : targets ⊆
        (play ({ key, value, targets }, c) moves).1.received.reduceOption.map Prod.fst :=
      fun target htarget => by_contra fun hnot => hnone ⟨target, htarget, hnot⟩
    have hle := (hnodup.subperm hall).length_le
    have hheard :=
      List.reduceOption_length_le (play ({ key, value, targets }, c) moves).1.received
    obtain ⟨hlt, -⟩ := Bool.and_eq_true_iff.1 hwaiting
    have hlt := of_decide_eq_true hlt
    rw [List.length_map] at hle
    omega
  case acknowledgers_nodup => exact horderly.nodup_acknowledgers
  case acknowledgers =>
    intro unit hunit
    have hmem := horderly.mem_outcomes_of_acknowledger hunit
    have hland := hlands unit hmem
    have htarget := horderly.mem_targets _ hmem
    rw [hsame.targets] at htarget
    exact ⟨htarget, hland, hcopy unit hland⟩
  case count => exact hcount
  case succeeds =>
    intro hdone hgoal
    rcases verdict_of_not_waiting horderly hdone with ⟨hreached, hverdict⟩ | ⟨hmissed, -, -⟩
    · rw [hlength] at hverdict hreached
      refine ⟨hverdict, ?_⟩
      unfold Quorum.needed at hreached
      omega
    · rw [hlength] at hmissed
      omega
  case fails =>
    intro hdone hgoal
    rcases verdict_of_not_waiting horderly hdone with ⟨hreached, -⟩ | ⟨-, -, hverdict⟩
    · rw [hlength] at hreached
      omega
    · rw [hlength, ← hcount] at hverdict
      exact hverdict
  case stores => exact hcopy
  case spares =>
    intro unit j hspared
    rw [hstores, hsame.key, if_neg]
    rintro ⟨hmem, hj⟩
    have hland := hlands unit hmem
    rcases hspared with hother | hnot
    · exact hother hj
    · exact hnot hland

/-- A write that was successful has been acknowledged by a majority. -/
theorem majority_of_verdict {w : Writing} (h : w.Orderly) {got : Nat} (hok : w.verdict = .ok got) :
    w.targets.length < 2 * w.acknowledgers.length := by
  have htake : w.waits.take w.targets.length = w.waits := by
    refine List.take_of_length_le ?_
    rw [waits, List.length_map]
    exact h.received_le
  rw [verdict, Quorum.judge_eq, htake, count_waits] at hok
  by_cases hreached : Quorum.needed w.targets.length ≤ w.acknowledgers.length
  · unfold Quorum.needed at hreached
    omega
  · rw [if_neg hreached] at hok
    cases hok

/-- Two majorities of a list have an element in common. -/
theorem exists_common {units units' : List UnitRef} (hnodup : units.Nodup) (hnodup' : units'.Nodup)
    (hsub : units ⊆ targets) (hsub' : units' ⊆ targets)
    (hmajority : targets.length < units.length + units'.length) :
    ∃ unit ∈ units, unit ∈ units' := by
  by_contra hnone
  have hdisjoint : units.Disjoint units' := fun unit hunit hunit' => hnone ⟨unit, hunit, hunit'⟩
  have hall := (hnodup.append hnodup' hdisjoint).subperm (List.append_subset.2 ⟨hsub, hsub'⟩)
  have hle := hall.length_le
  rw [List.length_append] at hle
  omega

/-- A write to some units, with every course that it can take: its verdict is that on the first
waits, of which there is one for each unit; whatever it is, the units that were active when their
tasks ran hold the value, and no other copy has changed. Two writes to the same units that are
successful have been acknowledged by a unit in common. The write of a cluster takes one of these
courses once the older tasks have done a stint. No task is dropped in it unless the cluster was shut
down, and what it makes of the cluster is what is there when the queue is drained, apart from what the
older tasks have left to do. -/
theorem write_decided (targets : List UnitRef) (hnodup : targets.Nodup) :
    let needed := Quorum.needed targets.length
    (∀ waits : List Wait, Quorum.judge targets.length waits =
      if needed ≤ (waits.take targets.length).count .acknowledged then .ok needed
      else .error (.quorumNotReached needed
        ((waits.take targets.length).count .acknowledged))) ∧
    (∀ (key value : String) (c : Cluster) (moves : List Move),
      Decided key value targets c moves (play ({ key, value, targets }, c) moves)) ∧
    (∀ (key value : String) (c : Cluster) (moves : List Move) (got : Nat)
        (key' value' : String) (c' : Cluster) (moves' : List Move) (got' : Nat),
      let w := (play ({ key, value, targets }, c) moves).1
      let w' := (play ({ key := key', value := value', targets }, c') moves').1
      w.verdict = .ok got → w'.verdict = .ok got' →
        ∃ unit ∈ w.acknowledgers, unit ∈ w'.acknowledgers) ∧
    ∀ (key value : String) (c : Cluster), ∃ moves,
      let s := play ({ key, value, targets }, c.round) moves
      (c.closed = false → ∀ target, .drop target ∉ moves) ∧ s.1.isWaiting = false ∧
        (∀ target, s.1.isRunning target = false) ∧
        s.1.verdict = (c.writeQuorum key value targets).1 ∧
        (c.closed = false → 0 < c.writeTimeout → s.2 = (c.writeQuorum key value targets).2) ∧
        s.2.drain = (c.writeQuorum key value targets).2.drain ∧
        (c.round.queue = [] → s.2 = (c.writeQuorum key value targets).2.drain) := by
  intro needed
  refine ⟨fun waits => Quorum.judge_eq _ waits,
    fun key value c moves => decided_play key value hnodup c moves, ?_,
    fun key value c => Cluster.exists_course c key value hnodup⟩
  intro key value c moves got key' value' c' moves' got' w w' hok hok'
  have hdecided := decided_play key value hnodup c moves
  have hdecided' := decided_play key' value' hnodup c' moves'
  have hmajority := majority_of_verdict (orderly_start.play moves) hok
  have hmajority' := majority_of_verdict (orderly_start.play moves') hok'
  rw [(same_play ({ key, value, targets }, c) moves).targets] at hmajority
  rw [(same_play ({ key := key', value := value', targets }, c') moves').targets] at hmajority'
  refine exists_common hdecided.acknowledgers_nodup hdecided'.acknowledgers_nodup
    (fun unit hunit => (hdecided.acknowledgers unit hunit).1)
    (fun unit hunit => (hdecided'.acknowledgers unit hunit).1) ?_
  change targets.length < 2 * w.acknowledgers.length at hmajority
  change targets.length < 2 * w'.acknowledgers.length at hmajority'
  omega

/-- A wait ends without an outcome, one unit is switched off before its task runs, and another task
runs only after the write has failed. -/
theorem write_decided_partial :
    let c := (Session.start 1 3 5000 [⟨"a", "localhost", 8000⟩, ⟨"b", "localhost", 8001⟩,
      ⟨"c", "localhost", 8002⟩]).cluster
    let targets : List UnitRef := [⟨"a", 0⟩, ⟨"b", 1⟩, ⟨"c", 2⟩]
    let moves : List Move := [.run ⟨"a", 0⟩, .timeOut, .switch ⟨"b", 1⟩ false, .run ⟨"b", 1⟩,
      .hear ⟨"b", 1⟩, .hear ⟨"a", 0⟩, .run ⟨"c", 2⟩]
    let s := play ({ key := "x", value := "v", targets }, c) moves
    s.1.waits = [.timedOut, .refused, .acknowledged] ∧
      s.1.verdict = .error (.quorumNotReached 2 1) ∧
      s.2.fleet.copy ⟨"c", 2⟩ "x" = some "v" ∧
      s.2.fleet.copy ⟨"c", 2⟩ "y" = c.fleet.copy ⟨"c", 2⟩ "y" := by
  intro c targets moves s
  have h : targets.Nodup ∧ s.1.waits = [.timedOut, .refused, .acknowledged] ∧
      s.1.isWaiting = false ∧
      (play ({ key := "x", value := "v", targets }, c) (moves.take 6)).1.isRunning ⟨"c", 2⟩ = true ∧
      (play ({ key := "x", value := "v", targets }, c) (moves.take 6)).2.fleet.pool.isActive
        ⟨"c", 2⟩ = true := by
    decide +kernel
  obtain ⟨hnodup, hwaits, hdone, hrunning, hactive⟩ := h
  have hdecided : Decided "x" "v" targets c moves s :=
    (write_decided targets hnodup).2.1 "x" "v" c moves
  have hlands : Lands ({ key := "x", value := "v", targets }, c) moves ⟨"c", 2⟩ :=
    ⟨moves.take 6, [], rfl, hrunning, hactive⟩
  have hneeded : Quorum.needed targets.length = 2 := by decide
  have hcount : s.1.waits.count .acknowledged = 1 := by
    rw [hwaits]
    decide
  have hverdict := hdecided.fails hdone (by omega)
  rw [hneeded, hcount] at hverdict
  exact ⟨hwaits, hverdict, hdecided.stores _ hlands, hdecided.spares _ "y" (Or.inl (by decide))⟩

end Writing

end QuorumRing
