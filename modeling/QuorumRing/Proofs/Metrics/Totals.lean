import Mathlib.Algebra.BigOperators.Group.List.Basic
import Mathlib.Algebra.Ring.Nat
import QuorumRing.Metrics.Basic

/-!
# Totals of tallies

A tally counts by id. Whatever is counted adds one to the total of all ids, so that the total of a
tally is the number of things that were counted in it.
-/

namespace QuorumRing

namespace Tally

/-- The numbers of all ids together. -/
def total (tally : Std.ExtTreeMap String Nat) : Nat := (tally.toList.map Prod.snd).sum

variable {tally : Std.ExtTreeMap String Nat} {id : String}

theorem nodup_toList (tally : Std.ExtTreeMap String Nat) : tally.toList.Nodup :=
  tally.distinct_keys_toList.imp fun hne heq => Std.ReflCmp.ne_of_cmp_ne_eq hne (congrArg _ heq)

theorem total_insert (tally : Std.ExtTreeMap String Nat) (id : String) (n : Nat) :
    total (tally.insert id n) = n + total (tally.erase id) := by
  have habsent : (id, n) ∉ (tally.erase id).toList := by
    rw [Std.ExtTreeMap.mem_toList_iff_getElem?_eq_some]
    simp
  have hperm : (tally.insert id n).toList.Perm ((id, n) :: (tally.erase id).toList) := by
    refine (List.perm_ext_iff_of_nodup (nodup_toList _)
      (List.nodup_cons.2 ⟨habsent, nodup_toList _⟩)).2 fun entry => ?_
    obtain ⟨j, m⟩ := entry
    rw [List.mem_cons, Std.ExtTreeMap.mem_toList_iff_getElem?_eq_some,
      Std.ExtTreeMap.mem_toList_iff_getElem?_eq_some, Std.ExtTreeMap.getElem?_insert,
      Std.ExtTreeMap.getElem?_erase]
    by_cases hj : id = j
    · subst hj
      simp [eq_comm]
    · simp [hj, Ne.symm hj]
  rw [total, (hperm.map Prod.snd).sum_eq, List.map_cons, List.sum_cons, total]

theorem total_eq (tally : Std.ExtTreeMap String Nat) (id : String) :
    total tally = tally.getD id 0 + total (tally.erase id) := by
  cases hid : tally[id]? with
  | none =>
    have herase : tally.erase id = tally := by
      refine Std.ExtTreeMap.ext_getElem? fun j => ?_
      rw [Std.ExtTreeMap.getElem?_erase]
      split
      next heq => rw [← Std.LawfulEqOrd.eq_of_compare heq, hid]
      · rfl
    rw [herase, Std.ExtTreeMap.getD_eq_getD_getElem?, hid, Option.getD_none, Nat.zero_add]
  | some n =>
    have hinsert : tally.insert id n = tally := by
      refine Std.ExtTreeMap.ext_getElem? fun j => ?_
      rw [Std.ExtTreeMap.getElem?_insert]
      split
      next heq => rw [← Std.LawfulEqOrd.eq_of_compare heq, hid]
      · rfl
    have htotal := total_insert tally id n
    rw [hinsert] at htotal
    rw [htotal, Std.ExtTreeMap.getD_eq_getD_getElem?, hid, Option.getD_some]

/-- Counting one more thing adds one to the total. -/
theorem total_count (tally : Std.ExtTreeMap String Nat) (id : String) :
    total (tally.insert id (tally.getD id 0 + 1)) = total tally + 1 := by
  rw [total_insert, total_eq tally id]
  omega

end Tally

end QuorumRing
