import QuorumRing.Proofs.Fleet.Work

/-!
# What a repair reports

A repair asks all replicas of a key before it writes to any of them, so that its report is settled by
what they held at the beginning (`Fleet.repair_fst`). It writes to replicas only, and leaves everybody
else exactly as it was (`Fleet.get_repair_of_not_mem`).
-/

namespace QuorumRing

/-- The report on a key whose replicas hold these values, if a read finds the given one: those that
lack the key or hold another value are listed, in the order of the replicas. -/
def RepairReport.ofCopies (key : String) (replicas : List UnitRef)
    (held : UnitRef → Option String) : Option String → RepairReport
  | none => { key, checked := replicas.length }
  | some value =>
    { key
      value := some value
      checked := replicas.length
      repaired := (replicas.filter (held · ≠ some value)).map (·.id) }

/-- If all replicas hold what is found, there is nothing to repair. -/
theorem RepairReport.repaired_ofCopies {replicas : List UnitRef} {held : UnitRef → Option String}
    {found : Option String} (h : ∀ u ∈ replicas, held u = found) (key : String) :
    (RepairReport.ofCopies key replicas held found).repaired = [] := by
  cases found with
  | none => rfl
  | some value =>
    have hnone : replicas.filter (held · ≠ some value) = [] := by
      refine List.filter_eq_nil_iff.2 fun u hu => ?_
      simp [h u hu]
    rw [ofCopies, hnone, List.map_nil]

namespace Fleet

variable {fleet : Fleet} {unit : UnitRef} {r : Nat} {key value : String}

theorem mend_fst (key : String) (report : RepairReport) (held : UnitRef → Option String)
    {units : List UnitRef} (hactive : ∀ u ∈ units, fleet.pool.isActive u = true) :
    (fleet.mend key value report (units.map fun u => (u, .ok (held u)))).1 =
      { report with
        repaired := report.repaired ++ (units.filter (held · ≠ some value)).map (·.id) } := by
  induction units generalizing fleet report with
  | nil => simp [mend]
  | cons unit units ih =>
    obtain ⟨hunit, hactive⟩ := List.forall_mem_cons.1 hactive
    by_cases hseen : held unit = some value
    · have htail := ih report hactive
      rw [List.map_cons, mend, if_pos hseen, htail, List.filter_cons_of_neg (by simp [hseen])]
    · have hshape := sameShape_attempt_put fleet unit key value
      have hok : fleet.attempt unit (·.put key value) =
          (.ok (fleet.copy unit key), (fleet.attempt unit (·.put key value)).2) :=
        Prod.ext (attempt_put_fst hunit key value) rfl
      have htail := @ih (fleet.attempt unit (·.put key value)).2
        { report with repaired := report.repaired ++ [unit.id] }
        (fun u hu => by rw [hshape.active, hactive u hu])
      rw [List.map_cons, mend, if_neg hseen, hok]
      dsimp only
      rw [htail, List.filter_cons_of_pos (by simp [hseen]), List.map_cons]
      simp only [List.append_assoc, List.singleton_append]

theorem repair_fst (hs : fleet.ring.Sound) (r : Nat) (key : String) :
    (fleet.repair key r).1 = .ofCopies key (fleet.replicas key r) (fleet.copy · key)
      ((fleet.replicas key r).findSome? (fleet.copy · key)) := by
  have hactive := fun u (hu : u ∈ fleet.replicas key r) => isActive_of_mem_replicas hs hu
  have hread := readAll_fst key hactive
  have hshape := sameShape_readAll fleet key (fleet.replicas key r)
  unfold repair
  dsimp only
  rw [hread, firstValue?_map]
  cases hfound : (fleet.replicas key r).findSome? (fleet.copy · key) with
  | none => rfl
  | some value =>
    dsimp only
    rw [mend_fst key _ (fleet.copy · key) fun u hu => by rw [hshape.active, hactive u hu]]
    rfl

/-! ## Who is left alone -/

theorem get_readAll_of_not_mem {units : List UnitRef} (h : unit ∉ units) :
    (fleet.readAll key units).2.get unit = fleet.get unit := by
  induction units generalizing fleet with
  | nil => rfl
  | cons first units ih =>
    obtain ⟨hfirst, htail⟩ := not_or.1 (List.mem_cons.not.1 h)
    have hasked : (fleet.attempt first (·.get key)).2.get unit = fleet.get unit :=
      get_attempt_of_ne _ (Ne.symm hfirst)
    exact (ih htail).trans hasked

theorem get_mend_of_not_mem (report : RepairReport)
    {answers : List (UnitRef × Except Error (Option String))} (h : ∀ a ∈ answers, a.1 ≠ unit) :
    (fleet.mend key value report answers).2.get unit = fleet.get unit := by
  fun_induction mend fleet key value report answers with
  | case1 => rfl
  | case2 fleet report first answers e ih => exact ih fun a ha => h a (List.mem_cons_of_mem _ ha)
  | case3 fleet report first answers ih => exact ih fun a ha => h a (List.mem_cons_of_mem _ ha)
  | case4 fleet report first answers seen hseen previous stored hput ih =>
    have hother : (fleet.attempt first (·.put key value)).2.get unit = fleet.get unit :=
      get_attempt_of_ne _ (h _ List.mem_cons_self)
    rw [hput] at hother
    exact (ih fun a ha => h a (List.mem_cons_of_mem _ ha)).trans hother
  | case5 fleet report first answers seen hseen e stored hput ih =>
    have hother : (fleet.attempt first (·.put key value)).2.get unit = fleet.get unit :=
      get_attempt_of_ne _ (h _ List.mem_cons_self)
    rw [hput] at hother
    exact (ih fun a ha => h a (List.mem_cons_of_mem _ ha)).trans hother

theorem get_repair_of_not_mem (hs : fleet.ring.Sound) (h : unit ∉ fleet.replicas key r) :
    (fleet.repair key r).2.get unit = fleet.get unit := by
  have hread : (fleet.readAll key (fleet.replicas key r)).2.get unit = fleet.get unit :=
    get_readAll_of_not_mem h
  have hanswers := readAll_fst key fun u (hu : u ∈ fleet.replicas key r) =>
    isActive_of_mem_replicas hs hu
  unfold repair
  dsimp only
  split
  · exact hread
  · refine (get_mend_of_not_mem _ fun a ha => ?_).trans hread
    rw [hanswers] at ha
    obtain ⟨u, hu, rfl⟩ := List.mem_map.1 ha
    rintro rfl
    exact h hu

end Fleet

end QuorumRing
