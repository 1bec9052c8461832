import QuorumRing.Proofs.Fleet.Inspection

/-!
# What a verification reports

A verification asks the replicas of a key one by one, keeps the values it is given and compares them
with the first one. What its verdict says can be said of the replicas as a set, without any order
(`KeyHealth.Describes`). One of the four descriptions fits every key, and the verdict is the one that
fits (`ofValues_eq_iff`). So the numbers of a report are the sizes of the four classes into which the
stored keys fall (`Fleet.number_verify`).
-/

namespace QuorumRing

namespace KeyHealth

variable {units : List UnitRef} {held : UnitRef → Option String} {health : KeyHealth}

/-- What the condition of a key means for its replicas, given what each of them holds. -/
def Describes (health : KeyHealth) (units : List UnitRef) (held : UnitRef → Option String) : Prop :=
  match health with
  | .healthy => units ≠ [] ∧ ∃ value, ∀ u ∈ units, held u = some value
  | .underReplicated =>
    (∃ u ∈ units, held u ≠ none) ∧
      (∀ u ∈ units, ∀ w ∈ units, ∀ v v', held u = some v → held w = some v' → v = v') ∧
      ∃ u ∈ units, held u = none
  | .divergent => ∃ u ∈ units, ∃ w ∈ units, ∃ v v', held u = some v ∧ held w = some v' ∧ v ≠ v'
  | .orphaned => ∀ u ∈ units, held u = none

/-- Units that agree and all hold something hold one common value. -/
theorem exists_common_value (hne : units ≠ []) (hheld : ∀ u ∈ units, held u ≠ none)
    (hagree : ∀ u ∈ units, ∀ w ∈ units, ∀ v v', held u = some v → held w = some v' → v = v') :
    ∃ value, ∀ u ∈ units, held u = some value := by
  obtain ⟨first, hfirst⟩ := List.exists_mem_of_ne_nil units hne
  obtain ⟨value, hvalue⟩ := Option.ne_none_iff_exists'.1 (hheld first hfirst)
  refine ⟨value, fun u hu => ?_⟩
  obtain ⟨v, hv⟩ := Option.ne_none_iff_exists'.1 (hheld u hu)
  have hsame : v = value := hagree u hu first hfirst v value hv hvalue
  rw [hv, hsame]

/-- Some description fits, whatever the units hold. -/
theorem exists_describes (units : List UnitRef) (held : UnitRef → Option String) :
    ∃ health : KeyHealth, health.Describes units held := by
  by_cases horphaned : ∀ u ∈ units, held u = none
  · exact ⟨.orphaned, horphaned⟩
  · have hheld : ∃ u ∈ units, held u ≠ none := by
      by_contra hnone
      exact horphaned fun u hu => by_contra fun hne => hnone ⟨u, hu, hne⟩
    by_cases hagree : ∀ u ∈ units, ∀ w ∈ units, ∀ v v', held u = some v → held w = some v' → v = v'
    · by_cases hlacks : ∃ u ∈ units, held u = none
      · exact ⟨.underReplicated, hheld, hagree, hlacks⟩
      · obtain ⟨u, hu, -⟩ := hheld
        have hne : units ≠ [] := List.ne_nil_of_mem hu
        have hall : ∀ u ∈ units, held u ≠ none := fun u hu hnone => hlacks ⟨u, hu, hnone⟩
        exact ⟨.healthy, hne, exists_common_value hne hall hagree⟩
    · refine ⟨.divergent, ?_⟩
      by_contra hnone
      refine hagree fun u hu w hw v v' hv hv' => ?_
      by_contra hdiffer
      exact hnone ⟨u, hu, w, hw, v, v', hv, hv', hdiffer⟩

/-- Two different values among those that are compared with the first one are found. -/
theorem ofValues_of_ne {n : Nat} {values : List String} {v v' : String} (hv : v ∈ values)
    (hv' : v' ∈ values) (hne : v ≠ v') : ofValues n values = .divergent := by
  cases values with
  | nil => exact absurd hv List.not_mem_nil
  | cons first rest =>
    have hdiffer : ∃ x ∈ rest, (x != first) = true := by
      by_contra hnone
      have hall : ∀ x ∈ first :: rest, x = first := by
        intro x hx
        rcases List.mem_cons.1 hx with rfl | hx
        · rfl
        · by_contra hother
          exact hnone ⟨x, hx, bne_iff_ne.2 hother⟩
      exact hne ((hall v hv).trans (hall v' hv').symm)
    rw [ofValues, if_pos (List.any_eq_true.2 hdiffer)]

/-- Values that agree but are too few are found to be so. -/
theorem ofValues_of_lt {n : Nat} {values : List String} (hne : values ≠ [])
    (hagree : ∀ v ∈ values, ∀ v' ∈ values, v = v') (hfew : values.length < n) :
    ofValues n values = .underReplicated := by
  cases values with
  | nil => exact absurd rfl hne
  | cons first rest =>
    have hsame : ¬rest.any (· != first) = true := by
      intro hany
      obtain ⟨x, hx, hother⟩ := List.any_eq_true.1 hany
      have : x = first := hagree x (List.mem_cons_of_mem _ hx) first List.mem_cons_self
      exact bne_iff_ne.1 hother this
    have hlt : rest.length + 1 < n := hfew
    rw [ofValues, if_neg hsame, if_pos hlt]

/-- The description that fits is the verdict. -/
theorem ofValues_of_describes (h : health.Describes units held) :
    ofValues units.length (units.filterMap held) = health := by
  cases health with
  | healthy => exact (Fleet.ofValues_eq_healthy_iff held units).2 h
  | underReplicated =>
    obtain ⟨⟨u, hu, hsome⟩, hagree, w, hw, hnone⟩ := h
    obtain ⟨v, hv⟩ := Option.ne_none_iff_exists'.1 hsome
    have hne : units.filterMap held ≠ [] := List.ne_nil_of_mem (List.mem_filterMap.2 ⟨u, hu, hv⟩)
    have hvalues : ∀ v ∈ units.filterMap held, ∀ v' ∈ units.filterMap held, v = v' := by
      intro v hv v' hv'
      obtain ⟨a, ha, hav⟩ := List.mem_filterMap.1 hv
      obtain ⟨b, hb, hbv⟩ := List.mem_filterMap.1 hv'
      exact hagree a ha b hb v v' hav hbv
    have hfew : (units.filterMap held).length < units.length := by
      refine Nat.lt_of_le_of_ne (List.length_filterMap_le held units) fun hlength => ?_
      have hall := List.filterMap_length_eq_length.1 hlength w hw
      rw [hnone] at hall
      simp at hall
    exact ofValues_of_lt hne hvalues hfew
  | divergent =>
    obtain ⟨u, hu, w, hw, v, v', hv, hv', hdiffer⟩ := h
    have hmem : v ∈ units.filterMap held := List.mem_filterMap.2 ⟨u, hu, hv⟩
    have hmem' : v' ∈ units.filterMap held := List.mem_filterMap.2 ⟨w, hw, hv'⟩
    exact ofValues_of_ne hmem hmem' hdiffer
  | orphaned =>
    have hnil : units.filterMap held = [] := List.filterMap_eq_nil_iff.2 h
    rw [hnil, ofValues]

theorem ofValues_eq_iff :
    ofValues units.length (units.filterMap held) = health ↔ health.Describes units held := by
  constructor
  · rintro rfl
    obtain ⟨fitting, hfits⟩ := exists_describes units held
    rw [ofValues_of_describes hfits]
    exact hfits
  · exact ofValues_of_describes

instance : Decidable (health.Describes units held) :=
  decidable_of_iff (ofValues units.length (units.filterMap held) = health) ofValues_eq_iff

end KeyHealth

/-! ## The numbers of a report -/

namespace VerifyReport

variable (health : String → KeyHealth) (report : VerifyReport) (keys : List String)

/-- The number of keys that were found in a condition. -/
def number (report : VerifyReport) : KeyHealth → Nat
  | .healthy => report.healthy
  | .underReplicated => report.underReplicated
  | .divergent => report.divergent
  | .orphaned => report.orphaned

theorem number_count (verdict condition : KeyHealth) : (report.count verdict).number condition =
    report.number condition + if verdict = condition then 1 else 0 := by
  cases verdict <;> cases condition <;> rfl

theorem number_foldl_count (condition : KeyHealth) :
    (keys.foldl (fun report key => report.count (health key)) report).number condition =
      report.number condition + (keys.filter (health · = condition)).length := by
  induction keys generalizing report with
  | nil => rfl
  | cons key keys ih =>
    rw [List.foldl_cons, ih, number_count]
    by_cases h : health key = condition
    · rw [if_pos h, List.filter_cons_of_pos (by simpa using h), List.length_cons]
      omega
    · rw [if_neg h, List.filter_cons_of_neg (by simpa using h)]
      rfl

/-- Counting conditions does not touch the rest of the report. -/
theorem foldl_count_rest :
    (keys.foldl (fun report key => report.count (health key)) report).issues = report.issues ∧
      (keys.foldl (fun report key => report.count (health key)) report).totalKeys =
        report.totalKeys := by
  induction keys generalizing report with
  | nil => exact ⟨rfl, rfl⟩
  | cons key keys ih =>
    obtain ⟨hissues, htotal⟩ := ih (report.count (health key))
    rw [List.foldl_cons, hissues, htotal]
    cases health key <;> exact ⟨rfl, rfl⟩

/-- Every key is counted once. -/
theorem sum_foldl_count :
    let after := keys.foldl (fun report key => report.count (health key)) report
    after.healthy + after.underReplicated + after.divergent + after.orphaned =
      report.healthy + report.underReplicated + report.divergent + report.orphaned +
        keys.length := by
  induction keys generalizing report with
  | nil => rfl
  | cons key keys ih =>
    have htail := ih (report.count (health key))
    have hfirst : (report.count (health key)).healthy +
        (report.count (health key)).underReplicated + (report.count (health key)).divergent +
        (report.count (health key)).orphaned =
          report.healthy + report.underReplicated + report.divergent + report.orphaned + 1 := by
      cases health key <;> simp only [count] <;> omega
    dsimp only at htail ⊢
    rw [List.foldl_cons, htail, hfirst, List.length_cons]
    omega

end VerifyReport

namespace Fleet

variable {fleet fleet' : Fleet} {r : Nat} {key : String}

/-- A unit whose copies stay the same keeps its entries. -/
theorem contents_of_copy {unit : UnitRef}
    (h : ∀ key, fleet'.copy unit key = fleet.copy unit key) :
    (fleet'.get unit).contents = (fleet.get unit).contents :=
  Std.ExtTreeMap.ext_getElem? h

theorem health_eq_iff {condition : KeyHealth} : fleet.health r key = condition ↔
    condition.Describes (fleet.replicas key r) (fleet.copy · key) :=
  KeyHealth.ofValues_eq_iff

theorem verify_fst (hs : fleet.ring.Sound) (r : Nat) : (fleet.verify r).1 =
    fleet.storedKeys.toList.foldl (fun report key => report.count (fleet.health r key))
      { issues := fleet.ring.inconsistencies, totalKeys := fleet.storedKeys.size } :=
  inspectAll_fst hs r _ _

/-- The keys that are counted under a condition are those that it describes. -/
theorem number_verify (hs : fleet.ring.Sound) (r : Nat) (condition : KeyHealth) :
    (fleet.verify r).1.number condition = (fleet.storedKeys.filter fun key =>
      condition.Describes (fleet.replicas key r) (fleet.copy · key)).size := by
  have hzero : VerifyReport.number
      { issues := fleet.ring.inconsistencies, totalKeys := fleet.storedKeys.size }
        condition = 0 := by
    cases condition <;> rfl
  have hsame : (fun key => decide (fleet.health r key = condition)) = fun key =>
      decide (condition.Describes (fleet.replicas key r) (fleet.copy · key)) :=
    funext fun key => decide_eq_decide.2 health_eq_iff
  rw [verify_fst hs, VerifyReport.number_foldl_count, hzero, Nat.zero_add, hsame,
    ← Std.ExtTreeSet.length_toList, Std.ExtTreeSet.toList_filter]

theorem totalKeys_verify (hs : fleet.ring.Sound) (r : Nat) :
    (fleet.verify r).1.totalKeys = fleet.storedKeys.size := by
  rw [verify_fst hs]
  exact (VerifyReport.foldl_count_rest _ _ _).2

/-- All keys are counted, under one condition each. -/
theorem sum_verify (hs : fleet.ring.Sound) (r : Nat) :
    let report := (fleet.verify r).1
    report.healthy + report.underReplicated + report.divergent + report.orphaned =
      report.totalKeys := by
  have hsum := VerifyReport.sum_foldl_count (fleet.health r)
    { issues := fleet.ring.inconsistencies, totalKeys := fleet.storedKeys.size }
    fleet.storedKeys.toList
  rw [← verify_fst hs, Std.ExtTreeSet.length_toList] at hsum
  dsimp only at hsum ⊢
  rw [totalKeys_verify hs]
  omega

end Fleet

end QuorumRing
