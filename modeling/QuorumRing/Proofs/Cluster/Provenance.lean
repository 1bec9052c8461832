import QuorumRing.Proofs.Cluster.Acts

/-!
# Where entries come from

Every entry that a cluster stores, has queued or answers with was handed in under its own key by a
client, through the coordinator or to a unit directly. The invariant says this of the copies and of
what the queued tasks carry (`Cluster.Within`): a task may run long after the entries it captured
have changed, but they were handed in all the same.
-/

namespace QuorumRing

/-- A client has handed in the entry in one of the acts. -/
def Supplied (acts : List Act) (key value : String) : Prop :=
  ∃ a ∈ acts, a.supply? = some (key, value)

/-- All entries that are stored, or wait to be stored, are among the allowed ones. -/
structure Cluster.Within (allowed : String → String → Prop) (c : Cluster) : Prop where
  /-- The copies are allowed. -/
  copies : ∀ key, c.fleet.EntriesIn allowed key
  /-- What the queued tasks carry is allowed. -/
  tasks : ∀ task ∈ c.queue, ∀ key value, task.Carries key value → allowed key value

namespace Cluster.Within

variable {allowed : String → String → Prop} {c : Cluster}

/-- A migration finds allowed entries, wherever it looks. -/
theorem fits (h : c.Within allowed) : ∀ task ∈ c.queue, task.Fits allowed c.fleet := by
  intro task hmem
  cases task with
  | write target key value => exact h.tasks _ hmem key value ⟨rfl, rfl⟩
  | join | pull => exact h.copies
  | leave entries _ => exact fun entry hentry => h.tasks _ hmem entry.1 entry.2 hentry

/-- A task that an act queues carries what the act hands in, or what a unit holds. -/
theorem fresh {a : Act} {fleet : Fleet} {task : Task} (h : c.Within allowed)
    (hsupply : ∀ key value, a.supply? = some (key, value) → allowed key value)
    (hfresh : Fresh c a fleet task) {key value : String} (hcarries : task.Carries key value) :
    allowed key value := by
  cases hfresh with
  | write target supply =>
    obtain ⟨rfl, rfl⟩ := hcarries
    exact hsupply _ _ supply
  | join => exact hcarries.elim
  | leave unit =>
    exact h.copies key unit value (Std.ExtTreeMap.mem_toList_iff_getElem?_eq_some.1 hcarries)

variable {s : Session}

theorem act {a : Act} (h : s.cluster.Within allowed)
    (hsupply : ∀ key value, a.supply? = some (key, value) → allowed key value) :
    (s.act a).cluster.Within allowed := by
  have hturn := Session.turn h.fits ⟨hsupply, fun key _ => h.copies key⟩
  refine ⟨fun key => hturn.entriesIn (h.copies key), fun task hmem key value hcarries => ?_⟩
  rcases Session.tasks_act hmem with ⟨old, hold, hleaves⟩ | hfresh
  · exact h.tasks old hold key value (hleaves.carries hcarries)
  · exact h.fresh hsupply hfresh hcarries

theorem play {acts : List Act} (h : s.cluster.Within allowed)
    (hsupply : ∀ a ∈ acts, ∀ key value, a.supply? = some (key, value) → allowed key value) :
    (s.play acts).cluster.Within allowed := by
  induction acts generalizing s with
  | nil => exact h
  | cons a acts ih =>
    obtain ⟨hfirst, htail⟩ := List.forall_mem_cons.1 hsupply
    exact ih (h.act hfirst) htail

end Cluster.Within

namespace Session

variable (virtualNodes replicationFactor writeTimeout : Nat) (units : List UnitSpec)

/-- Whatever has happened to a new cluster: what its units hold and its tasks carry, what a read
answers and what a repair finds was handed in before, this value under this key. The entry that a
self test writes for a moment is no exception. -/
theorem entries_supplied (acts : List Act) :
    let c := ((start virtualNodes replicationFactor writeTimeout units).play acts).cluster
    (∀ unit key value, c.fleet.copy unit key = some value → Supplied acts key value) ∧
      (∀ task ∈ c.queue, ∀ key value, task.Carries key value → Supplied acts key value) ∧
      (∀ key value, (c.get key).1 = some value → Supplied acts key value) ∧
      (∀ key value, (c.repair key).1.value = some value → Supplied acts key value) := by
  intro c
  have hstart : (start virtualNodes replicationFactor writeTimeout units).cluster.Within
      (Supplied acts) := by
    refine ⟨fun key w value hv => ?_, fun task hmem => absurd hmem List.not_mem_nil⟩
    exact absurd ((copy_enlist virtualNodes units w key).symm.trans hv) (by simp)
  have hwithin : c.Within (Supplied acts) :=
    hstart.play fun a ha key value hsupply => ⟨a, ha, hsupply⟩
  refine ⟨fun unit key => hwithin.copies key unit, hwithin.tasks, fun key value hget => ?_,
    fun key value hrepair => ?_⟩
  · obtain ⟨unit, hheld⟩ := Cluster.copy_of_get hget
    exact hwithin.copies key unit value hheld
  · obtain ⟨unit, hheld⟩ := Fleet.copy_of_value_repair hrepair
    exact hwithin.copies key unit value hheld

end Session

end QuorumRing
