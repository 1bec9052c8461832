import QuorumRing.Fleet.Watch
import QuorumRing.Proofs.Fleet.Checkup

/-!
# What a watch does

A watch makes one check whenever an interval has passed. It does not matter in how many portions the
time passes (`Watch.sleep_add`), and a watch that was stopped makes no check any more. A fleet that
nobody else changes is settled by the first check of a watch: the later ones find every member as its
probe wants it (`Watch.sleep_of_due`).
-/

namespace QuorumRing.Watch

variable {w : Watch} {fleet : Fleet}

theorem checkTimes_add (probe : Probe) (fleet : Fleet) (monitor : Monitor) (m n : Nat) :
    checkTimes probe fleet monitor (m + n) =
      checkTimes probe (checkTimes probe fleet monitor m).2 (checkTimes probe fleet monitor m).1 n := by
  induction m generalizing fleet monitor with
  | zero => rw [Nat.zero_add, checkTimes]
  | succ m ih =>
    rw [Nat.add_right_comm, checkTimes, checkTimes]
    exact ih _ _

theorem checksWithin_add (w : Watch) (a b : Nat) (monitor : Monitor) :
    w.checksWithin (a + b) =
      w.checksWithin a + { w with monitor, now := w.now + a }.checksWithin b := by
  have hfirst : w.now / w.interval ≤ (w.now + a) / w.interval :=
    Nat.div_le_div_right (Nat.le_add_right _ _)
  have hsecond : (w.now + a) / w.interval ≤ (w.now + a + b) / w.interval :=
    Nat.div_le_div_right (Nat.le_add_right _ _)
  unfold checksWithin
  rw [← Nat.add_assoc]
  dsimp only
  split
  · rfl
  · omega

/-- Time passes in portions as it passes at once. -/
theorem sleep_add (w : Watch) (probe : Probe) (a b : Nat) (fleet : Fleet) :
    w.sleep probe (a + b) fleet =
      (w.sleep probe a fleet).1.sleep probe b (w.sleep probe a fleet).2 := by
  unfold sleep
  dsimp only
  rw [checksWithin_add w a b (checkTimes probe fleet w.monitor (w.checksWithin a)).1,
    checkTimes_add, Nat.add_assoc]

/-- A watch that has stopped makes no check. -/
theorem sleep_of_stopped (h : w.stopped = true) (probe : Probe) (millis : Nat) (fleet : Fleet) :
    w.sleep probe millis fleet = ({ w with now := w.now + millis }, fleet) := by
  rw [sleep, checksWithin, if_pos h, checkTimes]

/-- Where everybody is as the probe wants it, checks change nothing. -/
theorem checkTimes_of_settled (hs : fleet.ring.Sound) (monitor : Monitor) (down : List String)
    (h : ∀ unit ∈ fleet.units,
      fleet.pool.isActive unit = fleet.passes (.failingFor down) unit) (n : Nat) :
    (checkTimes (.failingFor down) fleet monitor n).1 = monitor ∧
      (checkTimes (.failingFor down) fleet monitor n).2.ring = fleet.ring ∧
      ∀ unit, (checkTimes (.failingFor down) fleet monitor n).2.get unit = fleet.get unit := by
  induction n generalizing fleet monitor with
  | zero => exact ⟨rfl, rfl, fun _ => rfl⟩
  | succ n ih =>
    obtain ⟨-, hmonitor, hget⟩ :=
      Monitor.check_of_settled hs (Probe.traceless_failingFor down) monitor h
    have hring := (Fleet.switching_check down monitor fleet).ring
    obtain ⟨hmonitor', hring', hget'⟩ := @ih (monitor.check (.failingFor down) fleet).2.2
      (hring ▸ hs) (monitor.check (.failingFor down) fleet).2.1 fun unit hunit => by
        rw [Fleet.units, hring] at hunit
        have hunit := h unit hunit
        unfold Fleet.passes Fleet.get Pool.isActive at hunit ⊢
        rwa [show (Pool.get _ unit) = fleet.pool.get unit from hget unit]
    rw [checkTimes]
    exact ⟨hmonitor'.trans hmonitor, hring'.trans hring, fun unit => (hget' unit).trans (hget unit)⟩

/-- However many checks are due, the first one leaves nothing to do for the others, as long as the
same probes fail and nobody else changes the fleet. -/
theorem sleep_of_due (hs : fleet.ring.Sound) (hnodup : w.monitor.failed.Nodup)
    (down : List String) {millis : Nat} (hdue : 0 < w.checksWithin millis) :
    let after := w.sleep (.failingFor down) millis fleet
    let checked := w.monitor.check (.failingFor down) fleet
    after.1 = { w with monitor := checked.2.1, now := w.now + millis } ∧
      after.2.ring = checked.2.2.ring ∧ ∀ unit, after.2.get unit = checked.2.2.get unit := by
  intro after checked
  obtain ⟨n, hn⟩ := Nat.exists_eq_succ_of_ne_zero hdue.ne'
  have hcheckup : Monitor.Checkup down w.monitor fleet checked.1 checked.2.1 checked.2.2 :=
    Monitor.checkup_check hs hnodup down
  have hsettled : ∀ unit ∈ checked.2.2.units,
      checked.2.2.pool.isActive unit = checked.2.2.passes (.failingFor down) unit := by
    intro unit hunit
    rw [Fleet.units, hcheckup.ring] at hunit
    have hmember := hcheckup.member unit hunit
    rw [Fleet.passes_failingFor, hmember]
    exact congrArg StorageUnit.active hmember
  obtain ⟨hmonitor, hring, hget⟩ :=
    checkTimes_of_settled (hcheckup.ring ▸ hs) checked.2.1 down hsettled n
  have hafter : after = ({ w with
      monitor := (checkTimes (.failingFor down) checked.2.2 checked.2.1 n).1
      now := w.now + millis }, (checkTimes (.failingFor down) checked.2.2 checked.2.1 n).2) := by
    show w.sleep _ _ _ = _
    rw [sleep, hn, checkTimes]
  rw [hafter, hmonitor]
  exact ⟨rfl, hring, hget⟩

end QuorumRing.Watch
