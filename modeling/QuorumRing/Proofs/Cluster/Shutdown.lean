import QuorumRing.Proofs.Cluster.Failover
import QuorumRing.Proofs.Cluster.Members
import QuorumRing.Proofs.Cluster.Rebalancing
import QuorumRing.Proofs.Fleet.Verdicts

/-!
# After a shutdown

A cluster that was shut down drops every task at once, and with it the registration of its migration.
Nothing is queued that could run later. So entries change only where somebody edits them without a
task, by a delete, a repair or a request to a unit (`Act.edits`); puts fail, and no migration is under
way. Admissions and removals go on, without their migrations: they look at the ring alone, which is
the same as if the cluster were open (`Fleet.SameMembers`).
-/

namespace QuorumRing

/-! ## Work that nothing is allowed in -/

namespace Fleet

variable {fleet fleet' : Fleet}

/-- In a turn in which nothing may be stored or given up, the entries stay, but for a unit that is
admitted without any. -/
theorem Turn.contents_of_forbidden (h : Turn (fun _ _ => False) fleet fleet') (w : UnitRef) :
    (fleet'.get w).contents = (fleet.get w).contents ∨
      (w.serial = fleet.pool.admissions ∧ (fleet'.get w).contents = ∅) := by
  cases h with
  | work hwork =>
    exact Or.inl (contents_of_copy fun key => hwork.copy_of_forbidden (fun _ => not_false) w)
  | switch _ hdata => exact Or.inl (hdata.contents w)
  | @join _ _ _ newcomer hadded =>
    by_cases hw : w = newcomer
    · subst hw
      exact Or.inr ⟨(admissions_add? hadded).1, contents_of_added hadded⟩
    · refine Or.inl (contents_of_copy fun key => ?_)
      rw [(admission_of_add? hadded).2.copy, if_neg hw]
  | leave _ hdata => exact Or.inl (hdata.contents w)

end Fleet

/-! ## Acts after a shutdown -/

/-- Whether the act changes entries itself, without a task. -/
def Act.edits : Act → Bool
  | .event (.delete _) | .event (.repair _) | .request _ (.put ..) | .request _ (.remove _) => true
  | _ => false

namespace Cluster

variable {c : Cluster}

theorem submit_of_closed (hclosed : c.closed = true) (key value : String) :
    c.submit key value = c := by
  refine submit_induction (P := fun c' => c' = c) rfl fun c' target hsame => ?_
  rw [hsame, spawn, if_pos hclosed]
  rfl

/-- A put fails, and says why. -/
theorem put_fst_of_closed (hclosed : c.closed = true) (key value : String) :
    (c.put key value).1 = if c.replicas key = [] then .error .noActiveUnits
      else .error (.quorumNotReached ((c.replicas key).length / 2 + 1) 0) := by
  by_cases hnil : c.replicas key = []
  · rw [if_pos hnil, put_of_replicas_eq_nil hnil]
  · rw [if_neg hnil, put_fst_of_unanswered (Or.inl hclosed) hnil]
    rfl

end Cluster

namespace Session

variable {s : Session} {a : Act} {acts : List Act}

/-- The cluster was shut down, and nothing is left of the tasks it had. -/
structure Stopped (s : Session) : Prop where
  /-- Tasks are refused. -/
  closed : s.cluster.closed = true
  /-- No task is queued. -/
  queue : s.cluster.queue = []
  /-- No registration is in force but those of queued tasks. -/
  accounted : s.cluster.Accounted

/-- A shutdown leaves nothing behind, in whatever order tasks ran before. -/
theorem stopped_shutdown (h : s.cluster.Accounted) (graceMillis : Nat) :
    (s.step (.shutdown graceMillis)).Stopped := by
  obtain ⟨f, m, g, hshutdown, -⟩ := Cluster.shutdown_snd s.cluster graceMillis
  refine ⟨Cluster.closed_shutdown s.cluster graceMillis, ?_, (h.shutdown graceMillis).accounted⟩
  rw [step, hshutdown]

namespace Stopped

theorem isRebalancing (h : s.Stopped) : s.cluster.isRebalancing = false := by
  rw [← Bool.not_eq_true]
  intro hbusy
  refine h.accounted.registrations_ne_nil hbusy ?_
  rw [Cluster.registrations, h.queue]
  rfl

theorem act (h : s.Stopped) (a : Act) : (s.act a).Stopped := by
  have hclosed : (s.act a).cluster.closed = true := by
    cases a with
    | request unit request => exact h.closed
    | event event =>
      rw [Session.act, closed_step, h.closed]
      rfl
  exact ⟨hclosed, quiet_act (fun _ => h.queue) a hclosed,
    (proceeds_act h.accounted (fun _ => h.queue) a).accounted⟩

theorem play (h : s.Stopped) (acts : List Act) : (s.play acts).Stopped := by
  induction acts generalizing s with
  | nil => exact h
  | cons a acts ih => exact ih (h.act a)

/-- An act that edits nothing itself changes no entries. -/
theorem contents_act (h : s.Stopped) (hedits : a.edits = false) (w : UnitRef) :
    ((s.act a).cluster.fleet.get w).contents = (s.cluster.fleet.get w).contents ∨
      (w.serial = s.cluster.fleet.pool.admissions ∧
        ((s.act a).cluster.fleet.get w).contents = ∅) := by
  have htasks : ∀ task ∈ s.cluster.queue, task.Fits (fun _ _ => False) s.cluster.fleet := by
    rw [h.queue]
    exact fun task htask => absurd htask List.not_mem_nil
  have hother : a.supply? = none → a.key? = none →
      ((s.act a).cluster.fleet.get w).contents = (s.cluster.fleet.get w).contents ∨
        (w.serial = s.cluster.fleet.pool.admissions ∧
          ((s.act a).cluster.fleet.get w).contents = ∅) := by
    intro hsupply hkey
    have hfits : a.Fits (fun _ _ => False) s.cluster.fleet :=
      ⟨fun key value hentry => by simp [hsupply] at hentry, fun key hentry => by
        simp [hkey] at hentry⟩
    exact (turn htasks hfits).contents_of_forbidden w
  cases a with
  | request unit request =>
    cases request with
    | put | remove => exact absurd hedits.symm Bool.false_ne_true
    | _ => exact hother rfl rfl
  | event event =>
    cases event with
    | put key value =>
      obtain ⟨m, hput⟩ := Cluster.put_snd_of_closed h.closed key value
      rw [Session.act, step, hput]
      exact Or.inl rfl
    | submit key value =>
      rw [Session.act, step, Cluster.submit_of_closed h.closed]
      exact Or.inl rfl
    | delete | repair => exact absurd hedits.symm Bool.false_ne_true
    | _ => exact hother rfl rfl

/-- All units that were admitted before keep their entries. -/
theorem contents_play (h : s.Stopped) (hedits : ∀ a ∈ acts, a.edits = false) {w : UnitRef}
    (hadmitted : w.serial < s.cluster.fleet.pool.admissions) :
    ((s.play acts).cluster.fleet.get w).contents = (s.cluster.fleet.get w).contents := by
  induction acts generalizing s with
  | nil => rfl
  | cons a acts ih =>
    obtain ⟨hfirst, hrest⟩ := List.forall_mem_cons.1 hedits
    have hlater := ih (h.act a) hrest (Nat.lt_of_lt_of_le hadmitted (admissions_act_le s a))
    refine hlater.trans ((h.contents_act hfirst w).resolve_right ?_)
    rintro ⟨hnew, -⟩
    omega

/-- Units that are admitted later get no entries. -/
theorem contents_newcomer (h : s.Stopped) (hs : s.cluster.fleet.ring.Sound)
    (hedits : ∀ a ∈ acts, a.edits = false) {n : Nat}
    (hempty : ∀ unit ∈ s.cluster.fleet.units, n ≤ unit.serial →
      (s.cluster.fleet.get unit).contents = ∅) :
    ∀ unit ∈ (s.play acts).cluster.fleet.units, n ≤ unit.serial →
      ((s.play acts).cluster.fleet.get unit).contents = ∅ := by
  induction acts generalizing s with
  | nil => exact hempty
  | cons a acts ih =>
    obtain ⟨hfirst, hrest⟩ := List.forall_mem_cons.1 hedits
    refine ih (h.act a) (sound_act hs a) hrest fun unit hunit hn => ?_
    rcases mem_units_act hs hunit with hold | ⟨-, -, hnone⟩
    · rcases h.contents_act hfirst unit with hsame | ⟨-, hnone⟩
      · rw [hsame]
        exact hempty unit hold hn
      · exact hnone
    · exact hnone

end Stopped

variable {virtualNodes replicationFactor writeTimeout : Nat} {units : List UnitSpec}

/-- Whatever has happened and in whatever order tasks ran: once a shutdown has returned, acts that edit
nothing themselves leave the entries of all units as they are, and units that are admitted now get
none. No task is queued and no migration registered, and every put fails. The members are those that
the same acts would have left without the shutdown, and admissions and removals answer the same. -/
theorem silence_after_shutdown (acts : List Act) (graceMillis : Nat) {later : List Act}
    (hedits : ∀ a ∈ later, a.edits = false) :
    let s := (start virtualNodes replicationFactor writeTimeout units).play acts
    let stopped := s.step (.shutdown graceMillis)
    let after := (stopped.play later).cluster
    let spared := (s.play later).cluster
    (∀ unit, unit.serial < stopped.cluster.fleet.pool.admissions →
      (after.fleet.get unit).contents = (stopped.cluster.fleet.get unit).contents) ∧
    (∀ unit ∈ after.fleet.units, stopped.cluster.fleet.pool.admissions ≤ unit.serial →
      (after.fleet.get unit).contents = ∅) ∧
    after.queue = [] ∧ after.isRebalancing = false ∧
    (∀ key value, (after.put key value).1 = if after.replicas key = [] then .error .noActiveUnits
      else .error (.quorumNotReached ((after.replicas key).length / 2 + 1) 0)) ∧
    after.fleet.ring = spared.fleet.ring ∧
    ∀ id host port,
      (after.addNode id host port).1 = (spared.addNode id host port).1 ∧
      (after.addNode id host port).2.fleet.ring.contains id = true ∧
      (after.removeNode id).1 = (spared.removeNode id).1 ∧
      (after.removeNode id).2.fleet.ring.contains id = false := by
  intro s stopped after spared
  have hstopped : stopped.Stopped :=
    stopped_shutdown (accounted_play accounted_start (fun _ => rfl) acts).1 graceMillis
  have hlater : (stopped.play later).Stopped := hstopped.play later
  have hstart := (working_start virtualNodes replicationFactor writeTimeout units).sound
  have hs : stopped.cluster.fleet.ring.Sound :=
    sound_act (sound_play hstart acts) (.event (.shutdown graceMillis))
  have hnumbered : stopped.cluster.fleet.Numbered := numbered_act (sound_play hstart acts)
    (numbered_play hstart (numbered_enlist virtualNodes units) acts) (.event (.shutdown graceMillis))
  have hempty : ∀ unit ∈ stopped.cluster.fleet.units,
      stopped.cluster.fleet.pool.admissions ≤ unit.serial →
      (stopped.cluster.fleet.get unit).contents = ∅ := fun unit hunit hnew =>
    absurd (hnumbered unit hunit) (Nat.not_lt.2 hnew)
  -- a shutdown is no change of membership, and what follows is the same in both runs
  have hsame : Fleet.SameMembers s.cluster.fleet stopped.cluster.fleet :=
    sameMembers_act s (a := .event (.shutdown graceMillis)) rfl
  have hring : after.fleet.ring = spared.fleet.ring := (hsame.play later).ring
  refine ⟨fun unit hadmitted => hstopped.contents_play hedits hadmitted,
    hstopped.contents_newcomer hs hedits hempty, hlater.queue, hlater.isRebalancing,
    Cluster.put_fst_of_closed hlater.closed, hring, fun id host port => ⟨?_, ?_, ?_, ?_⟩⟩
  · rw [Cluster.addNode_fst, Cluster.addNode_fst, hring]
  · exact Cluster.contains_addNode after id host port
  · rw [Cluster.removeNode_fst, Cluster.removeNode_fst, hring]
  · exact Cluster.contains_removeNode after id

set_option maxRecDepth 4096 in
/-- A migration and a younger write that has run ahead of it are queued, and the shutdown drops what
is left. -/
theorem silence_after_shutdown_midway :
    let s := (start 1 2 5000 [⟨"a", "localhost", 8000⟩, ⟨"b", "localhost", 8001⟩]).play
      [.event (.put "x" "old"), .event (.addNode "c" "localhost" 8002), .event (.submit "x" "new"),
        .event (.run 2)]
    let stopped := s.step (.shutdown 0)
    let later : List Act := [.event (.put "x" "late"), .event (.addNode "d" "localhost" 8003),
      .event (.removeNode "a"), .event (.switch "b" false), .event .drain, .event (.get "x")]
    let after := (stopped.play later).cluster
    s.cluster.isRebalancing = true ∧ s.cluster.queue.length = 2 ∧
      (∀ serial < 3, ∀ id, (after.fleet.get ⟨id, serial⟩).contents =
        (stopped.cluster.fleet.get ⟨id, serial⟩).contents) ∧
      after.isRebalancing = false ∧ after.fleet.units.map (·.id) = ["b", "c", "d"] := by
  intro s stopped later after
  have h : s.cluster.isRebalancing = true ∧ s.cluster.queue.length = 2 ∧
      stopped.cluster.fleet.pool.admissions = 3 ∧ (∀ a ∈ later, a.edits = false) ∧
      after.fleet.units.map (·.id) = ["b", "c", "d"] := by decide +kernel
  obtain ⟨hbusy, hqueue, hadmissions, hedits, hmembers⟩ := h
  obtain ⟨hcontents, -, -, hidle, -⟩ := silence_after_shutdown _ 0 hedits
  refine ⟨hbusy, hqueue, fun serial hserial id => hcontents ⟨id, serial⟩ ?_, hidle, hmembers⟩
  rw [hadmissions]
  exact hserial

end Session

end QuorumRing
