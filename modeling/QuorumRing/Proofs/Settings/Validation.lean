import Mathlib.Data.List.Induction
import QuorumRing.Settings.Basic

/-!
# Which settings are refused

Settings are refused for the first of their problems, in the order in which `Settings.Problem` lists
them. The units are looked at one after the other, and the first unit that has no id, or the id of a
unit in front of it, decides; what stands behind it is not looked at any more.
-/

namespace QuorumRing.Settings

variable {settings : Settings} {seen : List String} {front back units : List UnitSpec}
  {problem : Problem} {e : Error}

/-! ## Units -/

/-- The units have ids, and no two the same one. -/
def WellNamed (units : List UnitSpec) : Prop :=
  (units.map UnitSpec.id).Nodup ∧ "" ∉ units.map UnitSpec.id

theorem unitProblem?_append (seen : List String) (front back : List UnitSpec) :
    unitProblem? seen (front ++ back) =
      (unitProblem? seen front).or
        (unitProblem? ((front.map UnitSpec.id).reverse ++ seen) back) := by
  induction front generalizing seen with
  | nil => simp [unitProblem?]
  | cons unit front ih =>
    simp only [List.cons_append, unitProblem?, List.map_cons, List.reverse_cons, List.append_assoc,
      List.nil_append]
    split
    · simp
    · split
      · simp
      · rw [ih]

theorem unitProblem?_eq_none_iff : unitProblem? seen units = none ↔
    WellNamed units ∧ ∀ unit ∈ units, unit.id ∉ seen := by
  induction units generalizing seen with
  | nil => simp [unitProblem?, WellNamed]
  | cons unit units ih =>
    rw [unitProblem?]
    split
    next hempty => simp [WellNamed, hempty]
    next hne =>
      split
      next hseen => simp [hseen]
      next hfresh =>
        rw [ih]
        simp only [WellNamed, List.map_cons, List.nodup_cons, List.mem_cons]
        grind

/-- What is wrong with the first unit without an id of its own. -/
def UnitProblem (units : List UnitSpec) (problem : Problem) : Prop :=
  ∃ front unit back, units = front ++ unit :: back ∧ WellNamed front ∧
    (unit.id = "" ∧ problem = .emptyId ∨
      unit.id ≠ "" ∧ unit.id ∈ front.map UnitSpec.id ∧ problem = .duplicateId unit.id)

theorem unitProblem?_cons_of_wellNamed {unit : UnitSpec} (h : WellNamed front) :
    unitProblem? [] (front ++ unit :: back) =
      if unit.id = "" then some .emptyId
      else if unit.id ∈ front.map UnitSpec.id then some (.duplicateId unit.id)
      else unitProblem? (unit.id :: (front.map UnitSpec.id).reverse) back := by
  have hnone : unitProblem? [] front = none := unitProblem?_eq_none_iff.2 ⟨h, by simp⟩
  rw [unitProblem?_append, hnone]
  simp [unitProblem?]

theorem unitProblem?_eq_some_iff : unitProblem? [] units = some problem ↔ UnitProblem units problem := by
  constructor
  · intro h
    induction units using List.reverseRecOn with
    | nil => simp [unitProblem?] at h
    | append_singleton units unit ih =>
      cases hfront : unitProblem? [] units with
      | some first =>
        rw [unitProblem?_append, hfront, Option.some_or, ← hfront] at h
        obtain ⟨front, offender, back, rfl, hrest⟩ := ih h
        exact ⟨front, offender, back ++ [unit], by simp, hrest⟩
      | none =>
        have hnamed := (unitProblem?_eq_none_iff.1 hfront).1
        refine ⟨units, unit, [], rfl, hnamed, ?_⟩
        rw [unitProblem?_cons_of_wellNamed hnamed] at h
        split at h
        next hempty => exact .inl ⟨hempty, by simpa using h.symm⟩
        next hne =>
          split at h
          next htaken => exact .inr ⟨hne, htaken, by simpa using h.symm⟩
          next => simp [unitProblem?] at h
  · rintro ⟨front, unit, back, rfl, hnamed, ⟨hempty, rfl⟩ | ⟨hne, htaken, rfl⟩⟩
    · rw [unitProblem?_cons_of_wellNamed hnamed, if_pos hempty]
    · rw [unitProblem?_cons_of_wellNamed hnamed, if_neg hne, if_pos htaken]

/-! ## All settings -/

/-- The settings have the problem. Of the units only the first one that gives offence counts. -/
def Has (settings : Settings) : Problem → Prop
  | .noReplicas => settings.coordinator.replicationFactor = 0
  | .noVirtualNodes => settings.coordinator.virtualNodes = 0
  | .noWriteTimeout => settings.coordinator.writeTimeout = 0
  | .noHealthCheckInterval => settings.coordinator.healthCheckInterval = 0
  | problem => UnitProblem settings.initialUnits problem

/-- The place of a problem in the order in which they are looked for. -/
def Problem.rank : Problem → Nat
  | noReplicas => 0
  | noVirtualNodes => 1
  | noWriteTimeout => 2
  | noHealthCheckInterval => 3
  | emptyId | duplicateId _ => 4

theorem problem?_eq_none_iff : settings.problem? = none ↔
    1 ≤ settings.coordinator.replicationFactor ∧ 1 ≤ settings.coordinator.virtualNodes ∧
      1 ≤ settings.coordinator.writeTimeout ∧ 1 ≤ settings.coordinator.healthCheckInterval ∧
      WellNamed settings.initialUnits := by
  have hunits : unitProblem? [] settings.initialUnits = none ↔ _ := unitProblem?_eq_none_iff
  simp only [List.not_mem_nil, not_false_iff, implies_true, and_true] at hunits
  rw [problem?, ← hunits]
  split_ifs <;> simp_all [Nat.one_le_iff_ne_zero]

theorem has_of_unitProblem (h : UnitProblem settings.initialUnits problem) :
    settings.Has problem ∧ problem.rank = 4 := by
  obtain ⟨front, unit, back, hplace, hnamed, hoffence⟩ := id h
  rcases hoffence with ⟨-, rfl⟩ | ⟨-, -, rfl⟩
  · exact ⟨h, rfl⟩
  · exact ⟨h, rfl⟩

theorem has_of_problem? (h : settings.problem? = some problem) :
    settings.Has problem ∧ ∀ other, settings.Has other → problem.rank ≤ other.rank := by
  unfold problem? at h
  split_ifs at h with hfactor hnodes htime hinterval
  case neg =>
    obtain ⟨hhas, hrank⟩ := has_of_unitProblem (unitProblem?_eq_some_iff.1 h)
    refine ⟨hhas, fun other hother => ?_⟩
    rw [hrank]
    cases other <;> simp_all [Has, Problem.rank]
  all_goals
    obtain rfl := Option.some.inj h
    refine ⟨‹_›, fun other hother => ?_⟩
    cases other <;> simp_all [Has, Problem.rank]

theorem Has.unique {problem' : Problem} (h : settings.Has problem) (h' : settings.Has problem')
    (hrank : problem.rank = problem'.rank) : problem = problem' := by
  have hunits : UnitProblem settings.initialUnits problem →
      UnitProblem settings.initialUnits problem' → problem = problem' := by
    intro hunit hunit'
    have hsome := unitProblem?_eq_some_iff.2 hunit
    rw [unitProblem?_eq_some_iff.2 hunit'] at hsome
    exact (Option.some.inj hsome).symm
  cases problem <;> cases problem' <;> first | rfl | exact hunits h h' | simp [Problem.rank] at hrank

theorem not_has_of_problem?_eq_none (h : settings.problem? = none) : ¬ settings.Has problem := by
  unfold problem? at h
  split_ifs at h with hfactor hnodes htime hinterval
  intro hhas
  have hunits : ¬ UnitProblem settings.initialUnits problem := by
    intro hunit
    rw [unitProblem?_eq_some_iff.2 hunit] at h
    simp at h
  cases problem <;> simp_all [Has]

theorem problem?_eq_some_iff : settings.problem? = some problem ↔
    settings.Has problem ∧ ∀ other, settings.Has other → problem.rank ≤ other.rank := by
  constructor
  · exact has_of_problem?
  · rintro ⟨hhas, hfirst⟩
    cases hproblem : settings.problem? with
    | none => exact absurd hhas (not_has_of_problem?_eq_none hproblem)
    | some other =>
      obtain ⟨hother, hfirst'⟩ := has_of_problem? hproblem
      have hrank := Nat.le_antisymm (hfirst' problem hhas) (hfirst other hother)
      rw [hother.unique hhas hrank]

theorem validate_eq_ok_iff : settings.validate = .ok () ↔ settings.problem? = none := by
  unfold validate
  split
  next hsome => simp [hsome]
  next hnone => simp [hnone]

theorem validate_eq_error_iff : settings.validate = .error e ↔
    ∃ problem, settings.problem? = some problem ∧ e = .invalidConfig problem.message := by
  unfold validate
  split
  next hsome => simp [hsome, eq_comm]
  next hnone => simp [hnone]

/-- Valid settings ask for replicas, positions and time to wait, and name every unit once. -/
theorem of_validate (h : settings.validate = .ok ()) :
    0 < settings.coordinator.replicationFactor ∧ 0 < settings.coordinator.virtualNodes ∧
      0 < settings.coordinator.writeTimeout ∧ (settings.initialUnits.map UnitSpec.id).Nodup := by
  obtain ⟨hfactor, hnodes, htime, -, hnamed⟩ := problem?_eq_none_iff.1 (validate_eq_ok_iff.1 h)
  exact ⟨hfactor, hnodes, htime, hnamed.1⟩

end QuorumRing.Settings
