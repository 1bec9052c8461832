import QuorumRing.Proofs.Metrics.Totals
import QuorumRing.Proofs.Ring.Agreement
import QuorumRing.Proofs.Ring.Distance

/-!
# Three lookups along one walk

The closest unit of a key, its replica set and the trace of a placement are found by three loops of
their own: one stops at the first active unit, one keeps the ids it has seen, and one records every
position and looks only afterwards whether enough units are selected. All three make the same choices,
on every ring and also where the walk wraps around.

What a trace records is said relative to the walk (`Ring.Recorded`): it tells what is seen at the first
positions, selects an active unit at the first of its positions, and ends right where the last unit that
is needed is selected. Counting the closest units of sample keys gives a tally of the answers of one of
the three.
-/

namespace QuorumRing.Ring

open Position (clockwise)

variable {ring : Ring} {active : UnitRef → Bool} {key id : String} {r : Nat}
  {selected chosen : List String} {walk : List (Position × UnitRef)} {steps : List TraceStep}

/-! ## The closest unit -/

/-- Some active unit owns a position. -/
def Attended (ring : Ring) (active : UnitRef → Bool) : Prop :=
  ∃ (position : Position) (unit : UnitRef), ring.slots[position]? = some unit ∧ active unit = true

/-- The closest active unit is the first one of every replica set. -/
theorem locate_eq_head? (ring : Ring) (active : UnitRef → Bool) (key : String) (r : Nat) :
    ring.locate active key = (ring.replicaSet active key (r + 1)).head? := by
  have hdistinct : ∀ units : List UnitRef, (distinct units).head? = units.head? := by
    intro units
    cases units <;> rfl
  rw [locate, replicaSet, choose_eq, List.head?_take, if_neg (Nat.succ_ne_zero r)]
  simp [hdistinct]

theorem locate_eq_none_iff : ring.locate active key = none ↔ ¬ring.Attended active := by
  simp only [locate, List.find?_eq_none, mem_owners, Attended]
  constructor
  · rintro h ⟨position, unit, hslot, hactive⟩
    exact h unit ⟨position, hslot⟩ hactive
  · rintro h unit ⟨position, hslot⟩ hactive
    exact h ⟨position, unit, hslot, hactive⟩

/-! ## What a trace records -/

/-- What a step tells about its position. -/
def TraceStep.seen (step : TraceStep) : Position × String × Bool :=
  (step.position, step.id, step.active)

/-- The ids that are selected in these steps, in their order. -/
def picked (steps : List TraceStep) : List String := (steps.filter (·.selected)).map (·.id)

/-- A walk that begins with some ids selected is recorded by these steps and ends with the chosen ids,
when `r` of them are asked for. -/
structure Recorded (active : UnitRef → Bool) (r : Nat) (selected : List String)
    (walk : List (Position × UnitRef)) (steps : List TraceStep) (chosen : List String) : Prop where
  /-- The steps tell what is seen at the first positions of the walk. -/
  seen : steps.map TraceStep.seen <+: sight active walk
  /-- An active unit is selected at the first of its positions, unless it is selected already. -/
  first : ∀ before step after, steps = before ++ step :: after →
    (step.selected = true ↔
      step.active = true ∧ step.id ∉ selected ∧ ∀ other ∈ before, other.id ≠ step.id)
  /-- The chosen ids are those that are selected in the steps, behind those selected before. -/
  choice : chosen = selected ++ picked steps
  /-- The last step selects the last id that is asked for, or else the walk is met to its end. -/
  ends : (chosen.length = r ∧ ∀ step ∈ steps.getLast?, step.selected = true) ∨
    (chosen.length < r ∧ steps.length = walk.length)

theorem picked_cons (step : TraceStep) (steps : List TraceStep) :
    picked (step :: steps) = picked [step] ++ picked steps := by
  rw [picked, picked, picked, ← List.map_append, ← List.filter_append, List.singleton_append]

theorem picked_singleton (step : TraceStep) :
    picked [step] = if step.selected = true then [step.id] else [] := by
  cases hpick : step.selected <;> simp [picked, hpick]

/-- The step that is recorded at the next position. -/
def stepAt (active : UnitRef → Bool) (selected : List String) (slot : Position × UnitRef) :
    TraceStep :=
  { position := slot.1, id := slot.2.id, active := active slot.2
    selected := active slot.2 && !selected.contains slot.2.id }

theorem follow_cons (active : UnitRef → Bool) (r : Nat) (selected : List String)
    (slot : Position × UnitRef) (walk : List (Position × UnitRef)) :
    let step := stepAt active selected slot
    let later := follow active r (selected ++ picked [step]) walk
    follow active r selected (slot :: walk) =
      if r ≤ (selected ++ picked [step]).length then ([step], selected ++ picked [step])
      else (step :: later.1, later.2) := by
  intro step later
  have hselected : selected ++ picked [step] =
      if step.selected = true then selected ++ [step.id] else selected := by
    rw [picked_singleton]
    split
    · rfl
    · exact List.append_nil selected
  have hlater : later = follow active r
      (if step.selected = true then selected ++ [step.id] else selected) walk := by
    rw [← hselected]
  rw [hlater, hselected]
  rfl

/-- Once enough ids are selected no further step is recorded. -/
theorem recorded_done (h : selected.length = r) : Recorded active r selected walk [] selected where
  seen := List.nil_prefix
  first before step after heq := by simp at heq
  choice := by simp [picked]
  ends := Or.inl ⟨h, by simp⟩

theorem recorded_nil (h : selected.length < r) : Recorded active r selected [] [] selected where
  seen := List.nil_prefix
  first before step after heq := by simp at heq
  choice := by simp [picked]
  ends := Or.inr ⟨h, rfl⟩

/-- One more step in front. No other unit of the same id is met later, so that a unit is selected at
the first of its positions or not at all. -/
theorem Recorded.cons {slot : Position × UnitRef}
    (hsame : ∀ later ∈ walk, later.2.id = slot.2.id → later.2 = slot.2)
    (hmore : selected.length < r)
    (h : Recorded active r (selected ++ picked [stepAt active selected slot]) walk steps chosen) :
    Recorded active r selected (slot :: walk) (stepAt active selected slot :: steps) chosen := by
  have hselected : (stepAt active selected slot).selected = true ↔
      active slot.2 = true ∧ slot.2.id ∉ selected := by
    simp [stepAt]
  constructor
  case seen => exact List.cons_prefix_cons.2 ⟨rfl, h.seen⟩
  case first =>
    intro before later after heq
    cases before with
    | nil =>
      obtain ⟨rfl, -⟩ := List.cons.inj heq
      simp [stepAt]
    | cons first before =>
      obtain ⟨rfl, hsteps⟩ := List.cons.inj heq
      rw [h.first before later after hsteps, List.forall_mem_cons, List.mem_append, not_or, and_assoc]
      refine and_congr_right fun hactive => and_congr_right fun hnew => and_congr_left' ?_
      -- a step of the same id is that of the same unit, which the first step has selected then
      rw [picked_singleton]
      constructor
      · rintro hnot hid
        have hmem : later.seen ∈ sight active walk := by
          refine h.seen.subset (List.mem_map.2 ⟨later, ?_, rfl⟩)
          simp [hsteps]
        obtain ⟨other, hother, hseen⟩ := List.mem_map.1 hmem
        obtain ⟨-, hidother, hactiveother⟩ : _ ∧ other.2.id = later.id ∧
          active other.2 = later.active := by simpa [TraceStep.seen] using hseen
        have hunit := hsame other hother (hidother.trans hid.symm)
        rw [if_pos (hselected.2 ⟨?_, ?_⟩)] at hnot
        · exact hnot (List.mem_singleton.2 hid.symm)
        · rw [← hunit, hactiveother, hactive]
        · exact fun hmem => hnew (hid ▸ hmem)
      · intro hne hmem
        split at hmem
        · exact hne (List.mem_singleton.1 hmem).symm
        · exact List.not_mem_nil hmem
  case choice => rw [h.choice, picked_cons _ steps, List.append_assoc]
  case ends =>
    rcases h.ends with ⟨hlength, hlast⟩ | ⟨hlength, hwalk⟩
    · refine Or.inl ⟨hlength, ?_⟩
      cases hsteps : steps with
      | nil =>
        -- nothing follows, so that it is the first step that has made the difference
        intro last hmem
        obtain rfl : stepAt active selected slot = last := by simpa using hmem
        by_contra hskipped
        rw [h.choice, picked_singleton, if_neg hskipped, hsteps] at hlength
        simp [picked] at hlength
        omega
      | cons next steps =>
        rw [List.getLast?_cons_cons, ← hsteps]
        exact hlast
    · exact Or.inr ⟨hlength, congrArg (· + 1) hwalk⟩

theorem recorded_follow (hsame : ∀ slot ∈ walk, ∀ slot' ∈ walk,
      slot.2.id = slot'.2.id → slot.2 = slot'.2) (h : selected.length < r) :
    Recorded active r selected walk (follow active r selected walk).1
      (follow active r selected walk).2 := by
  induction walk generalizing selected with
  | nil => exact recorded_nil h
  | cons slot walk ih =>
    have hunit : ∀ later ∈ walk, later.2.id = slot.2.id → later.2 = slot.2 := fun later hlater =>
      hsame later (List.mem_cons_of_mem _ hlater) slot List.mem_cons_self
    have hrest : ∀ slot ∈ walk, ∀ slot' ∈ walk, slot.2.id = slot'.2.id → slot.2 = slot'.2 :=
      fun slot hslot slot' hslot' =>
        hsame slot (List.mem_cons_of_mem _ hslot) slot' (List.mem_cons_of_mem _ hslot')
    rw [follow_cons]
    split
    next hdone =>
      have hlength : (selected ++ picked [stepAt active selected slot]).length ≤
          selected.length + 1 := by
        rw [picked_singleton]
        split <;> simp
      exact (recorded_done (by omega)).cons hunit h
    next hmore => exact (ih hrest (Nat.not_le.1 hmore)).cons hunit h

/-! ## The choices of the loops -/

/-- Following a walk selects the ids of those units that the choice of replicas takes: the one loop
has the ids in the order of their selection, the other one in any order. -/
theorem follow_snd {seen : List String} (hseen : ∀ id, id ∈ seen ↔ id ∈ selected) {more : Nat}
    (hr : r = selected.length + (more + 1)) : (follow active r selected walk).2 =
      selected ++ (choose active (more + 1) seen (walk.map (·.2))).map (·.id) := by
  induction walk generalizing selected seen more with
  | nil => exact (List.append_nil selected).symm
  | cons slot walk ih =>
    have htest : (active slot.2 && !seen.contains slot.2.id) =
        (stepAt active selected slot).selected := by
      simp [stepAt, hseen, List.contains_eq_mem]
    rw [follow_cons, List.map_cons, choose, htest, picked_singleton]
    split
    next hpick =>
      rw [List.length_append, List.length_singleton, List.map_cons]
      cases more with
      | zero =>
        rw [if_pos (by omega), choose]
        rfl
      | succ more =>
        have hseen' : ∀ id, id ∈ slot.2.id :: seen ↔ id ∈ selected ++ [slot.2.id] := by
          simp [hseen, or_comm]
        rw [if_neg (by omega)]
        refine (ih hseen' ?_).trans (List.append_assoc _ _ _)
        rw [List.length_append, List.length_singleton]
        omega
    next hskip =>
      rw [List.append_nil, if_neg (by omega)]
      exact ih hseen hr

/-- A trace selects the replica set. -/
theorem selected_trace (ring : Ring) (active : UnitRef → Bool) (key : String) (r : Nat) :
    (ring.trace active key r).selected = (ring.replicaSet active key r).map (·.id) := by
  cases r with
  | zero =>
    rw [replicaSet]
    simp [trace, choose]
  | succ r =>
    let walk := ring.walk (Position.ofString key)
    have hsame : (follow active (r + 1) [] walk).2 =
        [] ++ (choose active (r + 1) [] (walk.map (·.2))).map (·.id) :=
      follow_snd (fun _ => Iff.rfl) (Nat.zero_add (r + 1)).symm
    exact hsame

/-- A trace records the walk from the key. -/
theorem recorded_trace (hs : ring.Sound) (active : UnitRef → Bool) (key : String) (r : Nat) :
    Recorded active r [] (ring.walk (Position.ofString key)) (ring.trace active key r).steps
      (ring.trace active key r).selected := by
  cases r with
  | zero => exact recorded_done rfl
  | succ r =>
    refine recorded_follow (fun slot hslot slot' hslot' hid => ?_) (Nat.succ_pos r)
    exact hs.owner_unique (mem_walk.1 hslot) (mem_walk.1 hslot') hid

/-! ## The distribution of sample keys -/

/-- How many of the first `n` sample keys have a unit of this id as their closest one. -/
def primaries (ring : Ring) (active : UnitRef → Bool) (n : Nat) (id : String) : Nat :=
  (List.range n).countP fun i => (ring.locate active (sampleKey i)).map (·.id) = some id

theorem primaries_succ (ring : Ring) (active : UnitRef → Bool) (n : Nat) (id : String) :
    ring.primaries active (n + 1) id = ring.primaries active n id +
      if (ring.locate active (sampleKey n)).map (·.id) = some id then 1 else 0 := by
  simp [primaries, List.range_succ]

theorem keyDistribution_succ (ring : Ring) (active : UnitRef → Bool) (n : Nat) :
    ring.keyDistribution active (n + 1) =
      match ring.locate active (sampleKey n) with
      | some unit => (ring.keyDistribution active n).insert unit.id
          ((ring.keyDistribution active n).getD unit.id 0 + 1)
      | none => ring.keyDistribution active n := by
  rw [keyDistribution, List.range_succ, List.foldl_append]
  rfl

/-- The distribution lists the ids that are closest to some sample key, each with the number of those
keys. -/
theorem getElem?_keyDistribution (ring : Ring) (active : UnitRef → Bool) (n : Nat) (id : String) :
    (ring.keyDistribution active n)[id]? =
      if ring.primaries active n id = 0 then none else some (ring.primaries active n id) := by
  induction n with
  | zero => rfl
  | succ n ih =>
    rw [keyDistribution_succ, primaries_succ]
    cases hlocate : ring.locate active (sampleKey n) with
    | none => simpa using ih
    | some unit =>
      rw [Std.ExtTreeMap.getElem?_insert]
      by_cases hid : unit.id = id
      · have hcount : (ring.keyDistribution active n).getD id 0 = ring.primaries active n id := by
          rw [Std.ExtTreeMap.getD_eq_getD_getElem?, ih]
          split <;> simp [*]
        simp [hid, hcount]
      · simp [hid, ih]

/-- If every key has a closest active unit, every sample is counted. -/
theorem total_keyDistribution (hlocate : ∀ key, ring.locate active key ≠ none) (n : Nat) :
    Tally.total (ring.keyDistribution active n) = n := by
  induction n with
  | zero => rfl
  | succ n ih =>
    obtain ⟨unit, hunit⟩ := Option.ne_none_iff_exists'.1 (hlocate (sampleKey n))
    rw [keyDistribution_succ, hunit]
    exact (Tally.total_count _ unit.id).trans (congrArg (· + 1) ih)

theorem keyDistribution_eq_empty (h : ¬ring.Attended active) (n : Nat) :
    ring.keyDistribution active n = ∅ := by
  induction n with
  | zero => rfl
  | succ n ih => rw [keyDistribution_succ, locate_eq_none_iff.2 h, ih]

/-! ## All lookups -/

/-- After every history, for every liveness and every key: the walk meets all occupied positions, each
once and clockwise from the key. A trace of it selects the replica set and records the walk up to the
selection that completes it. The closest unit is the first one of all replica sets, and there is none if
and only if no active unit owns a position. The distribution of sample keys counts the answers of this
lookup, and counts every sample if there are any. -/
theorem lookups_agree (virtualNodes : Nat) (changes : List Change) (active : UnitRef → Bool) :
    let ring := ofHistory virtualNodes changes
    (∀ key,
      let start := Position.ofString key
      (ring.walk start).Pairwise (fun s t => clockwise start s.1 < clockwise start t.1) ∧
      (∀ position unit, (position, unit) ∈ ring.walk start ↔
        ring.slots[position]? = some unit) ∧
      (∀ r,
        let trace := ring.trace active key r
        trace.selected = (ring.replicaSet active key r).map (·.id) ∧
          Recorded active r [] (ring.walk start) trace.steps trace.selected) ∧
      (∀ r, 0 < r → ring.locate active key = (ring.replicaSet active key r).head?) ∧
      (ring.locate active key = none ↔ ¬ring.Attended active)) ∧
    ∀ n,
      (∀ id, (ring.keyDistribution active n)[id]? =
        if ring.primaries active n id = 0 then none else some (ring.primaries active n id)) ∧
      (ring.Attended active → Tally.total (ring.keyDistribution active n) = n) ∧
      (¬ring.Attended active → ring.keyDistribution active n = ∅) := by
  intro ring
  have hs : ring.Sound := sound_ofHistory virtualNodes changes
  refine ⟨fun key => ⟨ring.walk_pairwise _, fun position unit => mem_walk, fun r => ?_,
    fun r hr => ?_, locate_eq_none_iff⟩, fun n => ⟨getElem?_keyDistribution ring active n, ?_, ?_⟩⟩
  · exact ⟨selected_trace ring active key r, recorded_trace hs active key r⟩
  · obtain ⟨r, rfl⟩ := Nat.exists_eq_succ_of_ne_zero hr.ne'
    exact locate_eq_head? ring active key r
  · intro hattended
    have hlocate : ∀ key, ring.locate active key ≠ none := fun key hnone =>
      locate_eq_none_iff.1 hnone hattended
    exact total_keyDistribution hlocate n
  · exact fun h => keyDistribution_eq_empty h n

/-- Two replicas are asked for and one unit is active, so that the trace goes all the way around. -/
example : ((ofHistory 2 [.add ⟨"a", 0⟩, .add ⟨"b", 1⟩]).trace (·.id != "a") "x" 2).steps.map
    (fun step => (step.position, step.id, step.selected)) =
      [(1224390049, "a", false), (2900203234, "b", true), (3406774128, "a", false),
        (71650012, "b", false)] := by
  decide +kernel

end QuorumRing.Ring
