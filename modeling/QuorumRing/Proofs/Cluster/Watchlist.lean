import QuorumRing.Proofs.Cluster.Acts
import QuorumRing.Proofs.Fleet.Probing

/-!
# The failed nodes of a monitor

A monitor goes by what it has done and seen itself: an id is on its list as long as a check has
switched off a unit of this id and no later one has switched it on again (`Outstanding`). Units come
and go and are switched by others meanwhile, and nobody tells the monitor.

So the unit of a listed id is registered and inactive (`Fleet.Down`), unless it was released behind
the back of the monitor (`Act.Releases`): it was removed, or it was switched on by somebody else.
-/

namespace QuorumRing

/-! ## Units that are down -/

namespace Fleet

variable {fleet fleet' : Fleet} {id : String}

/-- The id is that of a registered unit that is inactive. -/
def Down (fleet : Fleet) (id : String) : Prop :=
  ∃ unit, fleet.ring.get? id = some unit ∧ fleet.pool.isActive unit = false

namespace Down

theorem of_shape (h : fleet.Down id) (hshape : SameShape fleet fleet') : fleet'.Down id := by
  obtain ⟨unit, hunit, hinactive⟩ := h
  refine ⟨unit, ?_, ?_⟩
  · rw [hshape.ring]
    exact hunit
  · rw [hshape.active]
    exact hinactive

/-- It has to be this very unit that is switched on. -/
theorem setActive (h : fleet.Down id) {target : UnitRef} {active : Bool}
    (htarget : active = true → fleet.ring.get? id ≠ some target) :
    (fleet.setActive target active).Down id := by
  obtain ⟨unit, hunit, hinactive⟩ := h
  refine ⟨unit, hunit, ?_⟩
  by_cases hsame : target = unit
  · subst hsame
    have hoff : active = false := by
      rw [← Bool.not_eq_true]
      exact fun hon => htarget hon hunit
    have hstate := Pool.get_set_self fleet.pool target ((fleet.get target).setActive active)
    exact (congrArg StorageUnit.active hstate).trans hoff
  · have hstate := Pool.get_set_of_ne fleet.pool hsame ((fleet.get target).setActive active)
    exact (congrArg StorageUnit.active hstate).trans hinactive

theorem remove? (h : fleet.Down id) {other : String} (hne : other ≠ id)
    (hremoved : fleet.remove? other = some fleet') : fleet'.Down id := by
  obtain ⟨unit, hunit, hinactive⟩ := h
  obtain ⟨ring, hring, rfl⟩ := Option.map_eq_some_iff.1 hremoved
  refine ⟨unit, ?_, hinactive⟩
  rw [Ring.get?_erase? hring, if_neg (Ne.symm hne)]
  exact hunit

/-- The id of a registered unit is not given away. -/
theorem add? (h : fleet.Down id) {other host : String} {port : UInt16} {newcomer : UnitRef}
    (hs : fleet.ring.Sound)
    (hadded : fleet.add? { id := other, host, port } = some (newcomer, fleet')) :
    fleet'.Down id := by
  obtain ⟨unit, hunit, hinactive⟩ := h
  obtain ⟨-, hadmission⟩ := admission_of_add? hadded
  have hfree : fleet.ring.get? newcomer.id = none :=
    Ring.get?_eq_none_iff.2 (Ring.insert?_eq_some_iff.1 hadmission.inserted).1
  have hne : id ≠ newcomer.id := by
    rintro rfl
    rw [hunit] at hfree
    simp at hfree
  refine ⟨unit, ?_, ?_⟩
  · rw [Ring.get?_insert? hadmission.inserted, if_neg hne]
    exact hunit
  · have hother : unit ≠ newcomer := by
      rintro rfl
      exact hne (hs.id_of_get? hunit).symm
    rw [hadmission.active, hinactive, beq_eq_false_iff_ne.2 hother, Bool.or_false]

end Down

theorem sameShape_selfTest (fleet : Fleet) (unit : UnitRef) : SameShape fleet
    { fleet with pool := fleet.pool.set unit (fleet.get unit).selfTest.2 } := by
  refine ⟨rfl, funext fun w => ?_⟩
  by_cases hw : unit = w
  · subst hw
    have hstate := Pool.get_set_self fleet.pool unit (fleet.get unit).selfTest.2
    exact (congrArg StorageUnit.active hstate).trans rfl
  · exact congrArg StorageUnit.active (Pool.get_set_of_ne fleet.pool hw _)

end Fleet

/-! ## Checks -/

namespace Monitor

variable {fleet : Fleet} {id : String} (monitor : Monitor) (down : List String)

theorem down_check_of_deactivated (hs : fleet.ring.Sound)
    (h : id ∈ (monitor.check (.failingFor down) fleet).1.deactivated) :
    (monitor.check (.failingFor down) fleet).2.2.Down id := by
  have hring := (Fleet.switching_check down monitor fleet).ring
  obtain ⟨fleet', hcheck, hmembers, -⟩ := check_eq hs (Probe.neutral_failingFor down) monitor
  rw [hcheck] at h hring ⊢
  obtain ⟨unit, hunit, rfl, -, hfailed⟩ := Fleet.mem_switched_iff.1 h
  refine ⟨unit, ?_, (hmembers unit hunit).trans hfailed⟩
  rw [hring]
  exact (Fleet.mem_units hs).1 hunit

/-- Who is not seen to recover stays down. -/
theorem down_check_of_not_recovered (hs : fleet.ring.Sound) (hdown : fleet.Down id)
    (h : id ∉ (monitor.check (.failingFor down) fleet).1.recovered) :
    (monitor.check (.failingFor down) fleet).2.2.Down id := by
  have hring := (Fleet.switching_check down monitor fleet).ring
  obtain ⟨fleet', hcheck, hmembers, -⟩ := check_eq hs (Probe.neutral_failingFor down) monitor
  rw [hcheck] at h hring ⊢
  obtain ⟨unit, hunit, hinactive⟩ := hdown
  obtain rfl : unit.id = id := hs.id_of_get? hunit
  have hmember : unit ∈ fleet.units := (Fleet.mem_units hs).2 hunit
  refine ⟨unit, ?_, (hmembers unit hmember).trans ?_⟩
  · rw [hring]
    exact hunit
  · rw [← Bool.not_eq_true]
    intro hpassed
    exact h (Fleet.mem_switched_iff.2 ⟨unit, hmember, rfl, hinactive, hpassed⟩)

end Monitor

/-! ## What the monitor has reported -/

namespace HealthReport

/-- A unit of this id was switched off, and none of the later reports says that it recovered. -/
def Outstanding (id : String) (reports : List HealthReport) : Prop :=
  ∃ earlier report later, reports = earlier ++ report :: later ∧ id ∈ report.deactivated ∧
    ∀ next ∈ later, id ∉ next.recovered

theorem not_outstanding_nil (id : String) : ¬Outstanding id [] := by
  rintro ⟨earlier, report, later, heq, -⟩
  simp at heq

theorem outstanding_concat {id : String} {reports : List HealthReport} {report : HealthReport} :
    Outstanding id (reports ++ [report]) ↔
      id ∈ report.deactivated ∨ Outstanding id reports ∧ id ∉ report.recovered := by
  constructor
  · rintro ⟨earlier, first, later, heq, hfirst, hlater⟩
    rcases List.eq_nil_or_concat' later with rfl | ⟨later, last, rfl⟩
    · obtain ⟨-, hlast⟩ := List.append_inj' heq rfl
      obtain rfl : report = first := List.singleton_inj.1 hlast
      exact Or.inl hfirst
    · have hsplit : reports ++ [report] = (earlier ++ first :: later) ++ [last] := by
        rw [heq]
        simp
      obtain ⟨hreports, hlast⟩ := List.append_inj' hsplit rfl
      obtain rfl : report = last := List.singleton_inj.1 hlast
      refine Or.inr ⟨⟨earlier, first, later, hreports, hfirst, fun next hnext => ?_⟩, ?_⟩
      · exact hlater next (List.mem_append_left _ hnext)
      · exact hlater report (List.mem_append_right _ (List.mem_singleton_self _))
  · rintro (hlast | ⟨⟨earlier, first, later, rfl, hfirst, hlater⟩, hlast⟩)
    · exact ⟨reports, report, [], rfl, hlast, by simp⟩
    · refine ⟨earlier, first, later ++ [report], by simp, hfirst, fun next hnext => ?_⟩
      rcases List.mem_append.1 hnext with hnext | hnext
      · exact hlater next hnext
      · rw [List.mem_singleton.1 hnext]
        exact hlast

end HealthReport

/-- Somebody removes the unit of this id or switches it on. -/
def Act.Releases (act : Act) (fleet : Fleet) (id : String) : Prop :=
  match act with
  | .event (.removeNode other) => other = id
  | .event (.switch other active) => other = id ∧ active = true
  | .request unit (.setActive active) => fleet.ring.get? id = some unit ∧ active = true
  | _ => False

namespace Session

/-- The report of a check. -/
def report? (s : Session) : Act → Option HealthReport
  | .event (.check down) => some (s.monitor.check (.failingFor down) s.cluster.fleet).1
  | _ => none

/-- The reports of all checks, oldest first. -/
def reports (s : Session) : List Act → List HealthReport
  | [] => []
  | a :: acts => (s.report? a).toList ++ (s.act a).reports acts

/-- Somebody released the unit of this id while it was down, and since then no check has switched
off a unit of this id. -/
def Released (s : Session) (id : String) (acts : List Act) : Prop :=
  ∃ before a after, acts = before ++ a :: after ∧ (s.play before).cluster.fleet.Down id ∧
    a.Releases (s.play before).cluster.fleet id ∧
    ∀ report ∈ (s.play (before ++ [a])).reports after, id ∉ report.deactivated

variable {s : Session} {a : Act} {acts : List Act} {id : String}

theorem reports_concat (s : Session) (acts : List Act) (a : Act) :
    s.reports (acts ++ [a]) = s.reports acts ++ ((s.play acts).report? a).toList := by
  induction acts generalizing s with
  | nil => simp [reports, play]
  | cons first acts ih =>
    rw [List.cons_append, reports, ih, reports, List.append_assoc]
    rfl

theorem Released.concat (h : s.Released id acts)
    (ha : ∀ report ∈ (s.play acts).report? a, id ∉ report.deactivated) :
    s.Released id (acts ++ [a]) := by
  obtain ⟨before, b, after, rfl, hdown, hreleases, hsince⟩ := h
  have hplay : (s.play (before ++ [b])).play after = s.play (before ++ b :: after) := by
    rw [← play_append, List.append_assoc, List.singleton_append]
  refine ⟨before, b, after ++ [a], by simp, hdown, hreleases, fun report hreport => ?_⟩
  rw [reports_concat, hplay] at hreport
  rcases List.mem_append.1 hreport with hreport | hreport
  · exact hsince report hreport
  · exact ha report (Option.mem_toList.1 hreport)

/-- Only checks concern the monitor. -/
theorem monitor_act_of_report?_eq_none (h : s.report? a = none) :
    (s.act a).monitor = s.monitor := by
  cases a with
  | request => rfl
  | event event =>
    cases event with
    | check => exact absurd h (Option.some_ne_none _)
    | _ => rfl

/-- Apart from a check, only a release brings up a unit that is down. -/
theorem down_act (hs : s.cluster.fleet.ring.Sound) (hdown : s.cluster.fleet.Down id)
    (hcheck : s.report? a = none) (hkept : ¬a.Releases s.cluster.fleet id) :
    (s.act a).cluster.fleet.Down id := by
  cases a with
  | request unit request =>
    cases request with
    | put key value => exact hdown.of_shape (Fleet.sameShape_attempt_put _ unit key value)
    | get key => exact hdown.of_shape (Fleet.sameShape_attempt_get _ unit key)
    | remove key => exact hdown.of_shape (Fleet.sameShape_attempt_remove _ unit key)
    | setActive active => exact hdown.setActive fun hon hunit => hkept ⟨hunit, hon⟩
    | selfTest => exact hdown.of_shape (Fleet.sameShape_selfTest s.cluster.fleet unit)
  | event event =>
    cases event with
    | check => exact absurd hcheck (Option.some_ne_none _)
    | addNode other host port =>
      cases hadded : s.cluster.fleet.add? { id := other, host, port } with
      | none =>
        rw [act, step, Cluster.addNode_of_taken hadded]
        exact hdown
      | some added =>
        obtain ⟨-, registration, m, g, heq⟩ := Cluster.addNode_of_free hadded
        rw [act, step, heq]
        exact hdown.add? hs hadded
    | removeNode other =>
      rcases Cluster.removeNode_snd s.cluster other with heq | ⟨unit, f, q, m, g, heq, hremoved, -⟩
      · rw [act, step, heq]
        exact hdown
      · have hoff : (s.cluster.fleet.setActive unit false).Down id :=
          hdown.setActive fun hon => absurd hon Bool.false_ne_true
        rw [act, step, heq]
        exact hoff.remove? hkept hremoved
    | switch other active =>
      rw [act, step, Cluster.switch]
      split
      next unit hunit =>
        refine hdown.setActive fun hon hsame => hkept ⟨?_, hon⟩
        rw [← hs.id_of_get? hunit, hs.id_of_get? hsame]
      · exact hdown
    | _ => exact hdown.of_shape (sameShape_step s rfl)

theorem mem_failed_act_iff (hs : s.cluster.fleet.ring.Sound) {report : HealthReport}
    (hreport : s.report? a = some report) (id : String) :
    id ∈ (s.act a).monitor.failed ↔
      id ∈ report.deactivated ∨ id ∈ s.monitor.failed ∧ id ∉ report.recovered := by
  cases a with
  | request => exact absurd hreport.symm (Option.some_ne_none _)
  | event event =>
    cases event with
    | check down =>
      obtain rfl := Option.some.inj hreport
      exact Monitor.mem_failed_check_iff hs (Probe.neutral_failingFor down) s.monitor id
    | _ => exact absurd hreport.symm (Option.some_ne_none _)

theorem down_act_of_report (hs : s.cluster.fleet.ring.Sound) {report : HealthReport}
    (hreport : s.report? a = some report)
    (h : id ∈ report.deactivated ∨ s.cluster.fleet.Down id ∧ id ∉ report.recovered) :
    (s.act a).cluster.fleet.Down id := by
  cases a with
  | request => exact absurd hreport.symm (Option.some_ne_none _)
  | event event =>
    cases event with
    | check down =>
      obtain rfl := Option.some.inj hreport
      rcases h with hdeactivated | ⟨hdown, hkept⟩
      · exact s.monitor.down_check_of_deactivated down hs hdeactivated
      · exact s.monitor.down_check_of_not_recovered down hs hdown hkept
    | _ => exact absurd hreport.symm (Option.some_ne_none _)

/-- The list of a monitor that began with an empty one. -/
theorem mem_failed_play_iff (hs : s.cluster.fleet.ring.Sound) (hnone : s.monitor.failed = [])
    (acts : List Act) (id : String) :
    id ∈ (s.play acts).monitor.failed ↔ HealthReport.Outstanding id (s.reports acts) := by
  induction acts using List.reverseRecOn with
  | nil =>
    refine iff_of_false ?_ (HealthReport.not_outstanding_nil id)
    rw [play, List.foldl_nil, hnone]
    exact List.not_mem_nil
  | append_singleton acts a ih =>
    have hsound := sound_play hs acts
    have hact : s.play (acts ++ [a]) = (s.play acts).act a := play_append s acts [a]
    rw [hact, reports_concat]
    cases hreport : (s.play acts).report? a with
    | none =>
      rw [monitor_act_of_report?_eq_none hreport, Option.toList_none, List.append_nil]
      exact ih
    | some report =>
      rw [Option.toList_some, HealthReport.outstanding_concat, mem_failed_act_iff hsound hreport,
        ih]

/-- The unit of a listed id is down or was released. -/
theorem down_or_released (hs : s.cluster.fleet.ring.Sound) (hnone : s.monitor.failed = [])
    {acts : List Act} (h : id ∈ (s.play acts).monitor.failed) :
    (s.play acts).cluster.fleet.Down id ∨ s.Released id acts := by
  induction acts using List.reverseRecOn with
  | nil =>
    rw [play, List.foldl_nil, hnone] at h
    exact absurd h List.not_mem_nil
  | append_singleton acts a ih =>
    have hsound := sound_play hs acts
    have hact : s.play (acts ++ [a]) = (s.play acts).act a := play_append s acts [a]
    rw [hact] at h ⊢
    cases hreport : (s.play acts).report? a with
    | none =>
      -- the list stays as it was, and a unit that is down can only be released
      rw [monitor_act_of_report?_eq_none hreport] at h
      rcases ih h with hdown | hreleased
      · by_cases hrelease : a.Releases (s.play acts).cluster.fleet id
        · refine Or.inr ⟨acts, a, [], rfl, hdown, hrelease, fun report hmem => ?_⟩
          exact absurd hmem List.not_mem_nil
        · exact Or.inl (down_act hsound hdown hreport hrelease)
      · refine Or.inr (hreleased.concat fun report hmem => ?_)
        rw [hreport] at hmem
        exact absurd hmem (Option.not_mem_none _)
    | some report =>
      -- who is on the list after a check was switched off by it, or was on the list before
      rw [mem_failed_act_iff hsound hreport] at h
      by_cases hdeactivated : id ∈ report.deactivated
      · exact Or.inl (down_act_of_report hsound hreport (Or.inl hdeactivated))
      · obtain ⟨hlisted, hkept⟩ := h.resolve_left hdeactivated
        rcases ih hlisted with hdown | hreleased
        · exact Or.inl (down_act_of_report hsound hreport (Or.inr ⟨hdown, hkept⟩))
        · refine Or.inr (hreleased.concat fun other hmem => ?_)
          rw [hreport] at hmem
          rw [← Option.mem_some.1 hmem]
          exact hdeactivated

variable (virtualNodes replicationFactor writeTimeout : Nat) (units : List UnitSpec)

/-- At any time the failed nodes are those that a check has switched off and no later one has seen
recover. The unit of each is registered and inactive, unless it was removed or switched on by
somebody else after the last check that switched it off. -/
theorem failed_nodes_outstanding (acts : List Act) :
    let s := start virtualNodes replicationFactor writeTimeout units
    (∀ id, id ∈ (s.play acts).monitor.failed ↔ HealthReport.Outstanding id (s.reports acts)) ∧
      ∀ id ∈ (s.play acts).monitor.failed,
        (s.play acts).cluster.fleet.Down id ∨ s.Released id acts := by
  intro s
  have hs : s.cluster.fleet.ring.Sound :=
    (working_start virtualNodes replicationFactor writeTimeout units).sound
  exact ⟨mem_failed_play_iff hs rfl acts, fun id hid => down_or_released hs rfl hid⟩

/-- A unit that is removed while it is down stays on the list, also after the next check. -/
theorem failed_nodes_removed :
    let s := (start 1 1 5000 [⟨"a", "localhost", 8000⟩, ⟨"b", "localhost", 8001⟩]).play
      [.event (.check ["a"]), .event (.removeNode "a"), .event (.check [])]
    "a" ∈ s.monitor.failed ∧ ¬s.cluster.fleet.Down "a" := by
  intro s
  have h : "a" ∈ s.monitor.failed ∧ s.cluster.fleet.ring.get? "a" = none := by
    decide +kernel
  refine ⟨h.1, ?_⟩
  rintro ⟨unit, hunit, -⟩
  rw [h.2] at hunit
  exact Option.some_ne_none _ hunit.symm

end Session

end QuorumRing
