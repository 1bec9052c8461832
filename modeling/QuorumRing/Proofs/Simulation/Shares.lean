import Mathlib.Algebra.BigOperators.Group.Finset.Basic
import Mathlib.Data.List.Nodup
import Mathlib.Data.List.Perm.Basic
import QuorumRing.Simulation

/-!
# The shares of the writers

The keys of a load are dealt out in turn: a writer stores the keys whose numbers leave its own number
when they are divided by the number of writers. So every number belongs to one writer, and the shares
of all writers together are the numbers of all keys, each once.
-/

namespace QuorumRing.Simulation

variable {keys writers writer i : Nat}

theorem mem_share (hwriter : writer < writers) :
    i ∈ share keys writers writer ↔ i < keys ∧ i % writers = writer := by
  have hpos : 0 < writers := Nat.zero_lt_of_lt hwriter
  -- the numbers of turns that a writer has
  have hturns : ∀ turn, turn < (keys - writer + writers - 1) / writers ↔
      writer + writers * turn < keys := by
    intro turn
    rw [Nat.lt_iff_add_one_le, Nat.le_div_iff_mul_le hpos, Nat.add_mul, Nat.mul_comm turn writers]
    omega
  rw [share, List.mem_range']
  constructor
  · rintro ⟨turn, hturn, rfl⟩
    refine ⟨(hturns turn).1 hturn, ?_⟩
    rw [Nat.add_mul_mod_self_left, Nat.mod_eq_of_lt hwriter]
  · rintro ⟨hkey, rfl⟩
    have hsplit := Nat.mod_add_div i writers
    exact ⟨i / writers, (hturns _).2 (by omega), hsplit.symm⟩

theorem nodup_share (hwriters : 0 < writers) (keys writer : Nat) :
    (share keys writers writer).Nodup :=
  List.nodup_range' writers hwriters

/-- Every key is stored by one writer, and once. -/
theorem schedule_perm (simulation : Simulation) :
    simulation.schedule.Perm (List.range simulation.keys) := by
  have hpos : 0 < max simulation.writers 1 := by omega
  refine (List.perm_ext_iff_of_nodup ?_ List.nodup_range).2 fun i => ?_
  · rw [schedule, List.nodup_flatMap]
    refine ⟨fun writer _ => nodup_share hpos _ writer, ?_⟩
    refine List.nodup_range.imp_of_mem fun {writer writer'} hwriter hwriter' hne => ?_
    intro i hi hi'
    rw [mem_share (List.mem_range.1 hwriter)] at hi
    rw [mem_share (List.mem_range.1 hwriter')] at hi'
    exact hne (hi.2.symm.trans hi'.2)
  · rw [schedule, List.mem_flatMap, List.mem_range]
    constructor
    · rintro ⟨writer, hwriter, hi⟩
      exact ((mem_share (List.mem_range.1 hwriter)).1 hi).1
    · intro hi
      have hwriter := Nat.mod_lt i hpos
      exact ⟨i % max simulation.writers 1, List.mem_range.2 hwriter,
        (mem_share hwriter).2 ⟨hi, rfl⟩⟩

theorem sum_length_share (hwriters : 0 < writers) (keys : Nat) :
    ∑ writer ∈ Finset.range writers, (share keys writers writer).length = keys := by
  have hlength := (schedule_perm { keys, writers }).length_eq
  rw [schedule, List.length_flatMap, List.length_range, Nat.max_eq_left hwriters] at hlength
  exact hlength

end QuorumRing.Simulation
