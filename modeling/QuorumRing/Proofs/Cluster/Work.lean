import QuorumRing.Proofs.Cluster.Session
import QuorumRing.Proofs.Fleet.Work

/-!
# The work of a cluster

Reads, writes, deletes, repairs, verifications and queued tasks are work on the entries of the
fleet, whatever the state of the cluster. How much of it is allowed is a matter of what a put hands
in, what the tasks carry (`Task.Fits`) and what the units hold.
-/

namespace QuorumRing

open Fleet (Work EntriesIn)

variable {allowed : String → String → Prop} {fleet fleet' : Fleet} {queue queue' : List Task}

/-! ## What tasks carry -/

namespace Task

/-- The key that a task writes. -/
def key? : Task → Option String
  | .write _ key _ => some key
  | _ => none

/-- The entries that a task carries with it. -/
def Carries (key value : String) : Task → Prop
  | .write _ k v => k = key ∧ v = value
  | .join .. | .pull .. => False
  | .leave entries _ => (key, value) ∈ entries

variable {task left : Task} {key value : String}

/-- What is left of a task is no write. -/
theorem key?_rest (h : task.rest fleet = some left) : left.key? = none := by
  rcases rest_eq_some h with ⟨_, _, _, _, -, -, rfl⟩ | ⟨_, _, -, -, rfl⟩
  · rfl
  · rfl

/-- What is left of a task carries no more than the task. -/
theorem carries_of_rest (h : task.rest fleet = some left) (hcarries : left.Carries key value) :
    task.Carries key value := by
  rcases rest_eq_some h with ⟨_, _, _, _, -, -, rfl⟩ | ⟨_, _, rfl, -, rfl⟩
  · exact hcarries.elim
  · exact List.mem_of_mem_drop hcarries

/-- And what is carried on are entries of a removed unit. -/
theorem leave_of_rest (h : task.rest fleet = some left) (hcarries : left.Carries key value) :
    ∃ entries registration, left = .leave entries registration ∧ (key, value) ∈ entries := by
  rcases rest_eq_some h with ⟨_, _, _, _, -, -, rfl⟩ | ⟨entries, registration, -, -, rfl⟩
  · exact hcarries.elim
  · exact ⟨_, registration, rfl, hcarries⟩

/-- Another order of the entries is about the same entries. -/
theorem carries_of_reorder {entries : List (String × String)}
    (h : (task.reorder entries).Carries key value) : task.Carries key value := by
  rcases task.reorder_eq entries with hsame | ⟨old, registration, rfl, hperm, hreorder⟩
  · exact hsame ▸ h
  · rw [hreorder] at h
    exact hperm.mem_iff.1 h

theorem Leaves.carries (h : task.Leaves left) (hcarries : left.Carries key value) :
    task.Carries key value := by
  induction h with
  | refl => exact hcarries
  | tail _ hnext ih =>
    rcases hnext with ⟨fleet, hrest⟩ | ⟨entries, rfl⟩
    · exact ih (carries_of_rest hrest hcarries)
    · exact ih (carries_of_reorder hcarries)

theorem Leaves.key?_eq_some (h : task.Leaves left) (hkey : left.key? = some key) :
    task.key? = some key := by
  cases left with
  | write target j value => rwa [h.eq_of_write rfl]
  | join | pull | leave => cases hkey

/-- A stint of a task that does not write a key leaves the copies of its replicas as they are, if they
have any, or it stores a value on all of them that the task carries. -/
theorem copy_effect_of_mem_replicas (hs : fleet.ring.Sound) (r : Nat)
    (hkey : task.key? ≠ some key) : ∃ stored : Option String,
      (∀ value ∈ stored, task.Carries key value) ∧
      ∀ w ∈ fleet.replicas key r, (fleet.copy w key).isSome →
        (task.effect r fleet).copy w key = stored.or (fleet.copy w key) := by
  cases task with
  | write target j v =>
    refine ⟨none, fun _ hnone => absurd hnone (Option.not_mem_none _), fun w _ _ => ?_⟩
    have hother : key ≠ j := fun heq => hkey (congrArg some heq.symm)
    rw [effect, Fleet.copy_attempt_put, if_neg fun h => hother h.2.1, Option.none_or]
  | join unit _ =>
    refine ⟨none, fun _ hnone => absurd hnone (Option.not_mem_none _), fun w hw hheld => ?_⟩
    exact Fleet.copy_pullAll_of_mem_replicas hs hw hheld _ _ _ _
  | pull unit others keys _ =>
    refine ⟨none, fun _ hnone => absurd hnone (Option.not_mem_none _), fun w hw hheld => ?_⟩
    exact Fleet.copy_pullAll_of_mem_replicas hs hw hheld _ _ _ _
  | leave entries _ =>
    refine ⟨(entries.take stint).reverse.lookup key, fun value hvalue => ?_, fun w hw _ => ?_⟩
    · exact List.mem_of_mem_take (Fleet.mem_of_lookup_reverse hvalue)
    · rw [effect, Fleet.copy_redistribute hs, if_pos hw]

end Task

/-- Stints queue no write. -/
theorem Stints.key?_ne {r : Nat} {key : String} (h : Stints r fleet queue fleet' queue')
    (hkeys : ∀ task ∈ queue, task.key? ≠ some key) : ∀ task ∈ queue', task.key? ≠ some key := by
  intro left hmem hkey
  obtain ⟨task, htask, hleaves⟩ := h.leaves hmem
  exact hkeys task htask (hleaves.key?_eq_some hkey)

/-- Stints carry nothing new. -/
theorem Stints.carried {r : Nat} {key : String} {allowed : String → Prop}
    (h : Stints r fleet queue fleet' queue')
    (hcarried : ∀ task ∈ queue, ∀ value, task.Carries key value → allowed value) :
    ∀ task ∈ queue', ∀ value, task.Carries key value → allowed value := by
  intro left hmem value hcarries
  obtain ⟨task, htask, hleaves⟩ := h.leaves hmem
  exact hcarried task htask value (hleaves.carries hcarries)

/-! ## What tasks may do -/

/-- All that a task can store or give up is among the allowed entries. -/
def Task.Fits (allowed : String → String → Prop) (fleet : Fleet) : Task → Prop
  | .write _ key value => allowed key value
  | .join .. | .pull .. => ∀ key, fleet.EntriesIn allowed key
  | .leave entries _ => ∀ entry ∈ entries, allowed entry.1 entry.2

/-- If any entry is allowed, all tasks fit. -/
theorem Task.fits_all (task : Task) (fleet : Fleet) : task.Fits (fun _ _ => True) fleet := by
  cases task with
  | write => trivial
  | join | pull => exact fun _ _ _ _ => trivial
  | leave => exact fun _ _ => trivial

namespace Task.Fits

variable {task left : Task} {r : Nat}

theorem work (h : task.Fits allowed fleet) (r : Nat) :
    Work allowed fleet (task.effect r fleet) := by
  cases task with
  | write target key value => exact .store fleet target h
  | join unit _ => exact Fleet.work_pullAll h r unit _ _ _
  | pull unit others keys _ => exact Fleet.work_pullAll h r unit others _ _
  | leave entries _ =>
    exact Fleet.work_redistribute fleet r fun entry hentry => h entry (List.mem_of_mem_take hentry)

/-- What a task carries is captured, and what it will find is allowed as long as only allowed
entries are stored. -/
theorem after (h : task.Fits allowed fleet) (hwork : Work allowed fleet fleet') :
    task.Fits allowed fleet' := by
  cases task with
  | write target key value => exact h
  | join | pull => exact fun key => hwork.entriesIn (h key)
  | leave entries _ => exact h

/-- What is left of a task carries no more than the task. -/
theorem rest {before : Fleet} (h : task.Fits allowed fleet) (hrest : task.rest before = some left) :
    left.Fits allowed fleet := by
  rcases Task.rest_eq_some hrest with ⟨unit, others, keys, registration, hbegun, -, rfl⟩ |
    ⟨entries, registration, rfl, -, rfl⟩
  · cases task with
    | join | pull => exact h
    | write | leave => simp [Task.begun] at hbegun
  · exact fun entry hentry => h entry (List.mem_of_mem_drop hentry)

theorem reorder (h : task.Fits allowed fleet) (entries : List (String × String)) :
    (task.reorder entries).Fits allowed fleet := by
  rcases task.reorder_eq entries with hsame | ⟨old, registration, rfl, hperm, hreorder⟩
  · rwa [hsame]
  · rw [hreorder]
    exact fun entry hentry => h entry (hperm.mem_iff.1 hentry)

theorem leaves (h : task.Fits allowed fleet) (hleaves : task.Leaves left) :
    left.Fits allowed fleet := by
  induction hleaves with
  | refl => exact h
  | tail _ hnext ih =>
    rcases hnext with ⟨before, hrest⟩ | ⟨entries, rfl⟩
    · exact ih.rest hrest
    · exact ih.reorder entries

/-- Stints are work, and all tasks fit after them. -/
theorem stints (h : ∀ task ∈ queue, task.Fits allowed fleet)
    (hstints : Stints r fleet queue fleet' queue') :
    Work allowed fleet fleet' ∧ ∀ task ∈ queue', task.Fits allowed fleet' := by
  have hfits : ∀ {f : Fleet} {q : List Task}, Stints r fleet queue f q → Work allowed fleet f →
      ∀ task ∈ q, task.Fits allowed f := by
    intro f q hbefore hwork task hmem
    obtain ⟨old, hold, hleaves⟩ := hbefore.leaves hmem
    exact ((h old hold).leaves hleaves).after hwork
  have hwork : Work allowed fleet fleet' := by
    refine hstints.induction (P := fun f _ => Work allowed fleet f) (.refl fleet) ?_ ?_
    · intro f q index task hbefore queued hwork
      exact hwork.trans ((hfits hbefore hwork task (List.mem_of_getElem? queued)).work r)
    · exact fun _ _ _ _ hwork => hwork
  exact ⟨hwork, hfits hstints hwork⟩

end Task.Fits

namespace Cluster

variable {c : Cluster} {key value : String}

theorem work_drain (h : ∀ task ∈ c.queue, task.Fits allowed c.fleet) :
    Work allowed c.fleet c.drain.fleet := by
  obtain ⟨f, m, g, hdrain, hstints⟩ := drain_eq c
  rw [hdrain]
  exact (Task.Fits.stints h hstints).1

theorem work_shutdown (h : ∀ task ∈ c.queue, task.Fits allowed c.fleet) (graceMillis : Nat) :
    Work allowed c.fleet (c.shutdown graceMillis).2.fleet := by
  obtain ⟨f, m, g, hshutdown, rfl | hstints⟩ := shutdown_snd c graceMillis
  · rw [hshutdown]
    exact .refl _
  · rw [hshutdown]
    exact (Task.Fits.stints h hstints).1

theorem work_runAt (h : ∀ task ∈ c.queue, task.Fits allowed c.fleet) (index : Nat) :
    Work allowed c.fleet (c.runAt index).fleet := by
  unfold runAt
  cases hqueued : c.queue[index]? with
  | none => exact .refl _
  | some task =>
    obtain ⟨m, g, hrun⟩ := run_eq { c with queue := c.queue.eraseIdx index } task
    dsimp only
    rw [hrun]
    exact (h task (List.mem_of_getElem? hqueued)).work c.replicationFactor

theorem work_put (h : ∀ task ∈ c.queue, task.Fits allowed c.fleet) (fits : allowed key value) :
    Work allowed c.fleet (c.put key value).2.fleet := by
  rcases put_snd c key value with ⟨m, hput⟩ | ⟨m, hput⟩ | ⟨m, g, hput⟩
  · rw [hput]
    exact .refl _
  · rw [hput]
    exact .refl _
  · rw [hput]
    exact (Task.Fits.stints h (stints_of_round _ _ _)).1.trans (Fleet.work_storeOn _ fits _)

theorem work_readFirst (c : Cluster) (key : String) (units : List UnitRef) :
    Work allowed c.fleet (c.readFirst key units).2.fleet := by
  induction units generalizing c with
  | nil => exact .refl _
  | cons unit units ih =>
    have hread : Work allowed c.fleet (c.attempt unit (·.get key)).2.fleet := .read c.fleet unit key
    rw [readFirst]
    split
    next value c' h =>
      rw [h] at hread
      exact hread
    next answer c' hanswer h =>
      rw [h] at hread
      exact hread.trans (ih c')

/-- A value that is read is held by somebody. -/
theorem copy_of_readFirst {units : List UnitRef} (h : (c.readFirst key units).1 = some value) :
    ∃ unit, c.fleet.copy unit key = some value := by
  induction units generalizing c with
  | nil => simp [readFirst] at h
  | cons unit units ih =>
    rw [readFirst] at h
    split at h
    next found c' hfound =>
      obtain rfl : found = value := Option.some.inj h
      exact ⟨unit, Fleet.copy_of_attempt_get (congrArg Prod.fst hfound)⟩
    next answer c' hanswer hread =>
      obtain ⟨w, hw⟩ := ih h
      obtain ⟨-, rfl⟩ := Prod.mk.inj hread
      exact ⟨w, (Fleet.copy_attempt_get c.fleet unit w key key).symm.trans hw⟩

theorem work_get (c : Cluster) (key : String) : Work allowed c.fleet (c.get key).2.fleet := by
  unfold get
  dsimp only
  split
  · exact .refl _
  · exact work_readFirst c key _

theorem copy_of_get (h : (c.get key).1 = some value) :
    ∃ unit, c.fleet.copy unit key = some value := by
  unfold get at h
  dsimp only at h
  split at h
  · simp at h
  · exact copy_of_readFirst h

theorem work_removeFrom (hin : c.fleet.EntriesIn allowed key) (units : List UnitRef) :
    Work allowed c.fleet (c.removeFrom key units).2.fleet := by
  induction units generalizing c with
  | nil => exact .refl _
  | cons unit units ih =>
    have hremove : Work allowed c.fleet (c.attempt unit (·.remove key)).2.fleet :=
      .discard c.fleet unit (hin unit)
    have hleft := hremove.entriesIn hin
    rw [removeFrom]
    split
    next value c' h =>
      rw [h] at hremove hleft
      exact hremove.trans (ih (c := c'.record (·.recordUnitOperation unit.id)) hleft)
    next answer c' hanswer h =>
      rw [h] at hremove hleft
      exact hremove.trans (ih hleft)

theorem work_delete (hin : c.fleet.EntriesIn allowed key) :
    Work allowed c.fleet (c.delete key).2.fleet := by
  have hremoved := work_removeFrom hin (c.replicas key)
  unfold delete
  dsimp only
  split
  · exact hremoved
  · exact hremoved

end Cluster

end QuorumRing
