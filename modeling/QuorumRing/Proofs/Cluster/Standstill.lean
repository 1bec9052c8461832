import QuorumRing.Proofs.Cluster.Acts

/-!
# Inactive units

A unit that is inactive stands still. Whatever is asked of the cluster or of the unit itself, and
whichever tasks run that captured the unit while it was active, its entries and its counter stay as
they are until somebody switches it on. A removal switches it off once more, and an admission under
its id concerns another unit.
-/

namespace QuorumRing

namespace Fleet

variable {fleet fleet' : Fleet} {unit : UnitRef} {allowed : String → String → Prop}

/-- An admission leaves the units alone that were there before. -/
theorem get_of_add? {state : StorageUnit} {newcomer : UnitRef}
    (h : fleet.add? state = some (newcomer, fleet')) (hne : unit ≠ newcomer) :
    fleet'.get unit = fleet.get unit := by
  obtain ⟨ring, -, hpair⟩ := Option.map_eq_some_iff.1 h
  obtain ⟨rfl, rfl⟩ := Prod.mk.inj hpair
  simp [get, Pool.get, Std.ExtTreeMap.getD_insert, Ne.symm hne]

/-- A unit that is inactive before and after a turn has kept its entries and its counter. -/
theorem Turn.data_of_inactive (h : Turn allowed fleet fleet')
    (hbefore : fleet.pool.isActive unit = false) (hafter : fleet'.pool.isActive unit = false) :
    (fleet'.get unit).contents = (fleet.get unit).contents ∧
      (fleet'.get unit).operations = (fleet.get unit).operations := by
  cases h with
  | work hwork =>
    rw [hwork.get_of_inactive hbefore]
    exact ⟨rfl, rfl⟩
  | switch _ hdata => exact ⟨hdata.contents unit, hdata.operations unit⟩
  | @join _ _ _ newcomer hadded =>
    have hne : unit ≠ newcomer := by
      rintro rfl
      rw [(admission_of_add? hadded).2.active, beq_self_eq_true, Bool.or_true] at hafter
      simp at hafter
    rw [get_of_add? hadded hne]
    exact ⟨rfl, rfl⟩
  | leave _ hdata => exact ⟨hdata.contents unit, hdata.operations unit⟩

end Fleet

namespace Session

/-- Whatever happens to a cluster in whatever state: as long as a unit is inactive, its entries and
its counter stay as they are. -/
theorem standstill {s : Session} {acts : List Act} {unit : UnitRef}
    (hinactive : ∀ n ≤ acts.length,
      (s.play (acts.take n)).cluster.fleet.pool.isActive unit = false) :
    ((s.play acts).cluster.fleet.get unit).contents = (s.cluster.fleet.get unit).contents ∧
      ((s.play acts).cluster.fleet.get unit).operations =
        (s.cluster.fleet.get unit).operations := by
  induction acts generalizing s with
  | nil => exact ⟨rfl, rfl⟩
  | cons a acts ih =>
    have hbefore : s.cluster.fleet.pool.isActive unit = false := hinactive 0 (Nat.zero_le _)
    have hafter : (s.act a).cluster.fleet.pool.isActive unit = false :=
      hinactive 1 (Nat.le_add_left 1 acts.length)
    obtain ⟨hcontents, hoperations⟩ := (turn_act s a).data_of_inactive hbefore hafter
    obtain ⟨hcontents', hoperations'⟩ := @ih (s.act a) fun n hn =>
      hinactive (n + 1) (Nat.succ_le_succ hn)
    exact ⟨hcontents'.trans hcontents, hoperations'.trans hoperations⟩

/-- The unit is switched off while a write to it is queued. It is asked directly, probed, removed,
and its id is admitted again, whose migration and the old entries reach the other units. -/
theorem standstill_of_removed :
    let s := (start 1 3 5000 [⟨"a", "localhost", 8000⟩, ⟨"b", "localhost", 8001⟩,
      ⟨"c", "localhost", 8002⟩]).play [.event (.put "x" "old"), .event (.submit "x" "new"),
        .event (.switch "b" false)]
    let acts : List Act := [.request ⟨"b", 1⟩ (.put "y" "v"), .request ⟨"b", 1⟩ .selfTest,
      .event (.run 1), .event (.delete "x"), .event (.check ["b"]), .event (.removeNode "b"),
      .event (.addNode "b" "localhost" 8003), .event .drain, .event (.repair "x"),
      .event .verify, .event (.shutdown 1000)]
    let unit : UnitRef := ⟨"b", 1⟩
    (s.cluster.fleet.get unit).contents.toList = [("x", "old")] ∧
      (s.cluster.fleet.get unit).operations = 1 ∧
      (s.cluster.queue.map fun task => task.registration?.isSome) = [false, false, false] ∧
      ((s.play acts).cluster.fleet.get unit).contents = (s.cluster.fleet.get unit).contents ∧
      ((s.play acts).cluster.fleet.get unit).operations =
        (s.cluster.fleet.get unit).operations := by
  intro s acts unit
  have h : (s.cluster.fleet.get unit).contents.toList = [("x", "old")] ∧
      (s.cluster.fleet.get unit).operations = 1 ∧
      (s.cluster.queue.map fun task => task.registration?.isSome) = [false, false, false] ∧
      ∀ n ≤ acts.length, (s.play (acts.take n)).cluster.fleet.pool.isActive unit = false := by
    decide +kernel
  obtain ⟨hentries, hcount, hqueued, hinactive⟩ := h
  exact ⟨hentries, hcount, hqueued, standstill hinactive⟩

end Session

end QuorumRing
