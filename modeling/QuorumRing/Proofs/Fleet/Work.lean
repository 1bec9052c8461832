import QuorumRing.Proofs.Fleet.Inspection

/-!
# Work on the entries of a fleet

Whatever happens to the data of a fleet is made of requests to single units, each of which reads an
entry, stores one or gives one up (`Fleet.Work`). This says less than the equations about copies,
and it says it of all functions in the same way: an inactive unit has refused every request
(`Work.get_of_inactive`), no entry turns up that was not there and was not allowed to be stored
(`Work.entriesIn`), and a key of which nothing may be stored keeps its copies
(`Work.copy_of_forbidden`).
-/

namespace QuorumRing.Fleet

variable {fleet fleet' : Fleet} {unit : UnitRef} {r : Nat} {key value : String}
  {allowed : String → String → Prop}

/-- The second fleet comes from the first one by requests to single units, and every entry that is
stored or given up is among the allowed ones. -/
inductive Work (allowed : String → String → Prop) : Fleet → Fleet → Prop where
  /-- Nothing is asked. -/
  | refl (fleet : Fleet) : Work allowed fleet fleet
  /-- One piece of work follows another. -/
  | trans {a b c : Fleet} (first : Work allowed a b) (next : Work allowed b c) : Work allowed a c
  /-- A unit reads an entry. -/
  | read (fleet : Fleet) (unit : UnitRef) (key : String) :
      Work allowed fleet (fleet.attempt unit (·.get key)).2
  /-- A unit stores an entry. -/
  | store (fleet : Fleet) (unit : UnitRef) {key value : String} (fits : allowed key value) :
      Work allowed fleet (fleet.attempt unit (·.put key value)).2
  /-- A unit gives up an entry. -/
  | discard (fleet : Fleet) (unit : UnitRef) {key : String}
      (fits : ∀ value, fleet.copy unit key = some value → allowed key value) :
      Work allowed fleet (fleet.attempt unit (·.remove key)).2

/-- All copies of a key are among the allowed entries. -/
def EntriesIn (allowed : String → String → Prop) (fleet : Fleet) (key : String) : Prop :=
  ∀ unit value, fleet.copy unit key = some value → allowed key value

/-- A request to somebody else does not change a unit. -/
theorem get_attempt_of_ne {α : Type} (operation : Contents → α × Contents) {target : UnitRef}
    (h : target ≠ unit) :
    (fleet.attempt target (·.accept operation)).2.get unit = fleet.get unit := by
  cases hactive : fleet.pool.isActive target with
  | false => rw [attempt_of_inactive operation hactive]
  | true =>
    rw [attempt_of_active operation hactive]
    exact Pool.get_set_of_ne _ h _

/-- Nor does a request that is refused. -/
theorem get_attempt_of_inactive {α : Type} (operation : Contents → α × Contents)
    (h : fleet.pool.isActive unit = false) (target : UnitRef) :
    (fleet.attempt target (·.accept operation)).2.get unit = fleet.get unit := by
  by_cases htarget : target = unit
  · rw [htarget, attempt_of_inactive operation h]
  · exact get_attempt_of_ne operation htarget

namespace Work

theorem shape (h : Work allowed fleet fleet') : SameShape fleet fleet' := by
  induction h with
  | refl fleet => exact SameShape.refl fleet
  | trans _ _ ih ih' => exact ih.trans ih'
  | read fleet unit key => exact sameShape_attempt_get fleet unit key
  | store fleet unit _ => exact sameShape_attempt_put fleet unit _ _
  | discard fleet unit _ => exact sameShape_attempt_remove fleet unit _

/-- An inactive unit has no part in any work. -/
theorem get_of_inactive (h : Work allowed fleet fleet')
    (hinactive : fleet.pool.isActive unit = false) : fleet'.get unit = fleet.get unit := by
  induction h with
  | refl => rfl
  | trans first _ ih ih' =>
    have hstill := (congrFun first.shape.active unit).trans hinactive
    exact (ih' hstill).trans (ih hinactive)
  | read fleet target key => exact get_attempt_of_inactive _ hinactive target
  | store fleet target _ => exact get_attempt_of_inactive _ hinactive target
  | discard fleet target _ => exact get_attempt_of_inactive _ hinactive target

theorem entriesIn (h : Work allowed fleet fleet') (hin : fleet.EntriesIn allowed key) :
    fleet'.EntriesIn allowed key := by
  induction h with
  | refl => exact hin
  | trans _ _ ih ih' => exact ih' (ih hin)
  | read fleet target j =>
    intro w v hv
    rw [copy_attempt_get] at hv
    exact hin w v hv
  | store fleet target fits =>
    intro w v hv
    rw [copy_attempt_put] at hv
    split at hv
    next hstored =>
      obtain ⟨-, rfl, -⟩ := hstored
      exact Option.some.inj hv ▸ fits
    · exact hin w v hv
  | discard fleet target fits =>
    intro w v hv
    rw [copy_attempt_remove] at hv
    split at hv
    · simp at hv
    · exact hin w v hv

theorem copy_of_forbidden (h : Work allowed fleet fleet') (hnone : ∀ value, ¬allowed key value)
    (w : UnitRef) : fleet'.copy w key = fleet.copy w key := by
  induction h with
  | refl => rfl
  | trans _ _ ih ih' => exact ih'.trans ih
  | read fleet target j => exact copy_attempt_get fleet target w j key
  | store fleet target fits =>
    rw [copy_attempt_put, if_neg]
    rintro ⟨-, rfl, -⟩
    exact hnone _ fits
  | discard fleet target fits =>
    rw [copy_attempt_remove]
    split
    next hgone =>
      -- had there been anything to give up, it would have been allowed
      obtain ⟨rfl, rfl, -⟩ := hgone
      exact (Option.eq_none_iff_forall_not_mem.2 fun v hv => hnone v (fits v hv)).symm
    · rfl

end Work

/-! ## What the functions on fleets ask of the units -/

theorem work_storeOn (fleet : Fleet) (fits : allowed key value) (units : List UnitRef) :
    Work allowed fleet (fleet.storeOn key value units).2 := by
  induction units generalizing fleet with
  | nil => exact .refl fleet
  | cons unit units ih => exact (Work.store fleet unit fits).trans (ih _)

theorem work_redistribute (fleet : Fleet) (r : Nat) {entries : List (String × String)}
    (fits : ∀ entry ∈ entries, allowed entry.1 entry.2) :
    Work allowed fleet (fleet.redistribute r entries).2 := by
  induction entries generalizing fleet with
  | nil => exact .refl fleet
  | cons entry entries ih =>
    obtain ⟨key, value⟩ := entry
    obtain ⟨hfirst, htail⟩ := List.forall_mem_cons.1 fits
    rw [redistribute_cons]
    exact (work_storeOn fleet hfirst _).trans (ih _ htail)

theorem work_pull (hin : fleet.EntriesIn allowed key) (r : Nat) (target : UnitRef)
    (others : List UnitRef) : Work allowed fleet (fleet.pull r target others key).2 := by
  cases hdonor : fleet.donor? r target others key with
  | none =>
    rw [pull_of_donor?_eq_none hdonor]
    exact .refl fleet
  | some donor =>
    obtain ⟨source, stale⟩ := donor
    obtain ⟨value, hvalue, heq⟩ := pull_of_donor?_eq_some hdonor
    have hstored := (Work.read fleet source key).trans
      (.store _ target (hin source value hvalue))
    rw [heq]
    dsimp only
    split
    · exact hstored.trans (.discard _ source (hstored.entriesIn hin source))
    · exact hstored

theorem work_pullAll (hin : ∀ key, fleet.EntriesIn allowed key) (r : Nat) (target : UnitRef)
    (others : List UnitRef) (report : MigrationReport) (keys : List String) :
    Work allowed fleet (fleet.pullAll r target others report keys).2 := by
  induction keys generalizing fleet report with
  | nil => exact .refl fleet
  | cons key keys ih =>
    have hfirst := work_pull (hin key) r target others
    exact hfirst.trans (ih (fun j => hfirst.entriesIn (hin j)) _)

theorem work_readAll (fleet : Fleet) (key : String) (units : List UnitRef) :
    Work allowed fleet (fleet.readAll key units).2 := by
  induction units generalizing fleet with
  | nil => exact .refl fleet
  | cons unit units ih => exact (Work.read fleet unit key).trans (ih _)

theorem work_verify (fleet : Fleet) (r : Nat) : Work allowed fleet (fleet.verify r).2 := by
  have hkeys : ∀ (keys : List String) (fleet : Fleet) (report : VerifyReport),
      Work allowed fleet (fleet.inspectAll r report keys).2 := by
    intro keys
    induction keys with
    | nil => exact fun fleet _ => .refl fleet
    | cons key keys ih => exact fun fleet _ => (work_readAll fleet key _).trans (ih _ _)
  exact hkeys _ fleet _

theorem work_mend (fleet : Fleet) (fits : allowed key value) (report : RepairReport)
    (answers : List (UnitRef × Except Error (Option String))) :
    Work allowed fleet (fleet.mend key value report answers).2 := by
  fun_induction mend fleet key value report answers with
  | case1 => exact .refl _
  | case2 => assumption
  | case3 => assumption
  | case4 fleet report unit answers seen hseen previous stored hput ih =>
    have hstored := Work.store fleet unit fits
    rw [hput] at hstored
    exact hstored.trans ih
  | case5 fleet report unit answers seen hseen e stored hput ih =>
    have hstored := Work.store fleet unit fits
    rw [hput] at hstored
    exact hstored.trans ih

/-- A unit that answers with a value holds it. -/
theorem copy_of_attempt_get (h : (fleet.attempt unit (·.get key)).1 = .ok (some value)) :
    fleet.copy unit key = some value := by
  cases hactive : fleet.pool.isActive unit with
  | false =>
    have hrefused := congrArg Prod.fst
      (attempt_of_inactive (fun contents => (contents[key]?, contents)) hactive)
    exact absurd (hrefused.symm.trans h) (by simp)
  | true => exact Except.ok.inj ((attempt_get_fst hactive key).symm.trans h)

theorem copy_of_mem_readAll {units : List UnitRef}
    (h : (unit, .ok (some value)) ∈ (fleet.readAll key units).1) :
    fleet.copy unit key = some value := by
  induction units generalizing fleet with
  | nil => exact absurd h List.not_mem_nil
  | cons first units ih =>
    rcases List.mem_cons.1 h with hfirst | htail
    · obtain ⟨rfl, hanswer⟩ := Prod.mk.inj hfirst
      exact copy_of_attempt_get hanswer.symm
    · exact (copy_attempt_get fleet first unit key key).symm.trans (ih htail)

theorem mem_of_firstValue? {answers : List (UnitRef × Except Error (Option String))}
    (h : firstValue? answers = some value) : ∃ unit, (unit, .ok (some value)) ∈ answers := by
  obtain ⟨⟨unit, answer⟩, hmem, hanswer⟩ := List.exists_of_findSome?_eq_some h
  refine ⟨unit, ?_⟩
  cases answer with
  | ok found =>
    obtain rfl : found = some value := hanswer
    exact hmem
  | error e => simp at hanswer

/-- The value that a repair finds is held by one of the replicas. -/
theorem copy_of_value_repair (h : (fleet.repair key r).1.value = some value) :
    ∃ unit, fleet.copy unit key = some value := by
  unfold repair at h
  dsimp only at h
  split at h
  · simp at h
  next found hfound =>
    rw [value_mend] at h
    obtain rfl : found = value := Option.some.inj h
    obtain ⟨unit, hmem⟩ := mem_of_firstValue? hfound
    exact ⟨unit, copy_of_mem_readAll hmem⟩

theorem work_repair (hin : fleet.EntriesIn allowed key) (r : Nat) :
    Work allowed fleet (fleet.repair key r).2 := by
  have hread : Work allowed fleet (fleet.readAll key (fleet.replicas key r)).2 :=
    work_readAll fleet key _
  unfold repair
  dsimp only
  split
  · exact hread
  next value hvalue =>
    obtain ⟨unit, hmem⟩ := mem_of_firstValue? hvalue
    exact hread.trans (work_mend _ (hin unit value (copy_of_mem_readAll hmem)) _ _)

end QuorumRing.Fleet
